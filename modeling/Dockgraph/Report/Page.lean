import Dockgraph.Text.Basic

/-! The fixed parts of the page that shows reports, in order. Between them stand the time of making, the
figures, the cards of the reports and their data. -/

namespace Dockgraph.Report.Page

def ofLines (lines : List String) : Text :=
  Text.unlines (lines.map String.toList)

/-- The page up to the time of its making. -/
def top : Text := ofLines [
  "",
  "<!doctype html>",
  "<html lang=\"en\">",
  "<head>",
  "  <meta charset=\"utf-8\"/>",
  "  <title>Dockerfile Blueprint - Lint Report</title>",
  "  <script src=\"https://cdn.jsdelivr.net/npm/chart.js\"></script>",
  "  <style>",
  "    :root \x7b",
  "      --bg: #0b1220;",
  "      --card: rgba(20,30,55,0.75);",
  "      --accent: #38bdf8;",
  "      --text: #e2e8f0;",
  "      --meta: #94a3b8;",
  "      --error: #ef4444;",
  "      --hint: #f59e0b;",
  "      --ok: #22c55e;",
  "    \x7d",
  "    body \x7b background: var(--bg); color: var(--text); font-family: 'Inter', Arial, sans-serif; margin: 0; padding: 30px; \x7d",
  "    h1 \x7b color: var(--accent); text-align: center; margin-bottom: 6px; \x7d",
  "    .meta \x7b color: var(--meta); font-size: 14px; \x7d",
  "    .center \x7b text-align: center; \x7d",
  "    .card \x7b background: var(--card); border: 1px solid rgba(255,255,255,0.06); padding: 18px;",
  "            border-radius: 12px; margin: 18px auto; max-width: 1000px; \x7d",
  "    .badge \x7b padding: 3px 9px; border-radius: 999px; font-size: 12px; font-weight: bold; color: #fff; \x7d",
  "    .valid \x7b background: var(--ok); \x7d",
  "    .invalid \x7b background: var(--error); \x7d",
  "    .issue \x7b border-left: 3px solid var(--error); padding: 6px 10px; margin-top: 8px; \x7d",
  "    .suggestion \x7b border-left: 3px solid var(--hint); padding: 6px 10px; margin-top: 8px; \x7d",
  "    .context \x7b color: var(--meta); font-size: 13px; margin-top: 3px; \x7d",
  "    .search \x7b padding: 8px; border-radius: 6px; border: 1px solid #1e293b; background: #0f172a; color: var(--text); \x7d",
  "    button \x7b background: var(--accent); border: none; padding: 8px 12px; border-radius: 8px; font-weight: 600; cursor: pointer; \x7d",
  "    .footer \x7b color: var(--meta); font-size: 13px; text-align: center; margin-top: 30px; \x7d",
  "  </style>",
  "</head>",
  "<body>",
  "  <h1>Dockerfile Blueprint - Lint Report</h1>",
  "  <div class=\"meta center\">Generated: "]

def beforeFileCount : Text := ofLines [
  "</div>",
  "",
  "  <div class=\"card\" id=\"summary\">",
  "    <canvas id=\"verdictChart\" height=\"90\"></canvas>",
  "    <p class=\"center\">",
  "      Files: <b>"]

def beforeValidCount : Text := ofLines [
  "</b> &bull; Valid: <b>"]

def beforeErrorCount : Text := ofLines [
  "</b> &bull;",
  "      Errors: <b>"]

def beforeSuggestionCount : Text := ofLines [
  "</b> &bull; Suggestions: <b>"]

def beforeCards : Text := ofLines [
  "</b>",
  "    </p>",
  "    <div class=\"center\">",
  "      <input id=\"searchBox\" class=\"search\" placeholder=\"Filter by file name...\">",
  "      <select id=\"verdictFilter\" class=\"search\">",
  "        <option value=\"\">All files</option><option value=\"valid\">Valid</option><option value=\"invalid\">Invalid</option>",
  "      </select>",
  "      <button onclick=\"exportJSON()\">JSON</button>",
  "    </div>",
  "  </div>",
  "",
  "  "]

def afterCards : Text := ofLines [
  "",
  "",
  "  <div class=\"footer\">Dockerfile Blueprint &bull; Generated "]

def beforeData : Text := ofLines [
  "</div>",
  "",
  "<script>",
  "const reports = "]

/-- The page after the data of the reports. -/
def bottom : Text := ofLines [
  ";",
  "const counts = \x7bvalid: 0, invalid: 0\x7d;",
  "reports.forEach(r => \x7b counts[r.is_valid ? 'valid' : 'invalid'] += 1; \x7d);",
  "new Chart(document.getElementById('verdictChart'), \x7btype: 'doughnut',",
  "  data: \x7blabels: ['valid', 'invalid'], datasets: [\x7bdata: [counts.valid, counts.invalid], backgroundColor: ['#22c55e', '#ef4444']\x7d]\x7d,",
  "  options: \x7bplugins: \x7blegend: \x7bposition: 'bottom', labels: \x7bcolor: '#cbd5e1'\x7d\x7d\x7d\x7d\x7d);",
  "",
  "function filter()\x7b",
  "  const q = document.getElementById('searchBox').value.toLowerCase();",
  "  const verdict = document.getElementById('verdictFilter').value;",
  "  document.querySelectorAll('.report').forEach(el => \x7b",
  "    const ok = el.dataset.file.includes(q) && (!verdict || el.dataset.verdict === verdict);",
  "    el.style.display = ok ? 'block' : 'none';",
  "  \x7d);",
  "\x7d",
  "document.getElementById('searchBox').addEventListener('input', filter);",
  "document.getElementById('verdictFilter').addEventListener('change', filter);",
  "",
  "function exportJSON()\x7b",
  "  const blob = new Blob([JSON.stringify(reports, null, 2)], \x7btype: 'application/json'\x7d);",
  "  const a = document.createElement('a'); a.href = URL.createObjectURL(blob); a.download = 'blueprint_report.json'; a.click();",
  "\x7d",
  "</script>",
  "</body>",
  "</html>"]

end Dockgraph.Report.Page
