import Dockgraph.Lint.Check
import Dockgraph.Proofs.Except
import Dockgraph.Proofs.Report.Guard

/-! The reports as data in the script of the page. The page of any reports is made; its data end no script and are
read as the reports. What begins a comment stands in them if it stands in a text of a report. -/

namespace Dockgraph

namespace Report

/-- The texts that stand in a report. -/
def texts (r : Report) : List Text :=
  r.file :: (r.issues.map (·.message) ++ r.issues.map (·.severity) ++ r.suggestions ++ [r.buildability])

theorem commentOpening_isInfix_issue_iff (i : Lint.Issue) : Html.commentOpening <:+: i.toJson.compact ↔
    Html.commentOpening <:+: i.message ∨ Html.commentOpening <:+: i.severity := by
  rw [Lint.Issue.toJson, Json.commentOpening_isInfix_object_iff (by simp)]
  simp [Json.commentOpening_not_isInfix_int, Json.commentOpening_isInfix_text_iff]

theorem commentOpening_isInfix_toJson_iff (r : Report) :
    Html.commentOpening <:+: r.toJson.compact ↔ ∃ t ∈ r.texts, Html.commentOpening <:+: t := by
  rw [toJson, Json.commentOpening_isInfix_object_iff (by simp)]
  simp [texts, Json.commentOpening_isInfix_text_iff, Json.commentOpening_isInfix_list_iff,
    Json.commentOpening_not_isInfix_bool, commentOpening_isInfix_issue_iff, or_and_right, and_or_left,
    exists_or, or_assoc]

theorem isExact_issue (i : Lint.Issue) : i.toJson.IsExact :=
  .object (by simp) (by simp [Json.IsExact.int, Json.IsExact.text])

theorem isExact_toJson (r : Report) : r.toJson.IsExact := by
  refine .object (by simp) ?_
  simp only [List.forall_mem_cons]
  exact ⟨.text r.file, .bool r.isValid, .list (List.forall_mem_map.2 fun i _ => isExact_issue i),
    .list (List.forall_mem_map.2 fun s _ => .text s), .text r.buildability, nofun⟩

theorem excess?_toJson {r : Report} (h : ∀ i ∈ r.issues, Json.IsShort i.line) : r.toJson.excess? = none := by
  have hissue : ∀ i ∈ r.issues, i.toJson.excess? = none := by
    intro i hi
    have hline : Json.excessOf i.line = none := Json.excessOf_eq_none_iff.2 (h i hi)
    exact Json.excessFields?_eq_none (by simp [Json.excess?, hline])
  have hissues := Json.excessItems?_eq_none (List.forall_mem_map.2 hissue)
  have hsuggestions : Json.excessItems? (r.suggestions.map .text) = none :=
    Json.excessItems?_eq_none (List.forall_mem_map.2 fun _ _ => rfl)
  exact Json.excessFields?_eq_none (by simp [Json.excess?, hissues, hsuggestions])

/-! The page. -/

theorem issuesOf_toJson (r : Report) : issuesOf r.toJson = .ok (r.issues.map Lint.Issue.toJson) := rfl

theorem suggestionsOf_toJson (r : Report) : suggestionsOf r.toJson = .ok (r.suggestions.map .text) := rfl

theorem exists_contextOf_text (s : Text) : ∃ c, contextOf (.text s) = .ok c := by
  cases s <;> exact ⟨_, rfl⟩

theorem exists_issueCard (i : Lint.Issue) : ∃ c, issueCard i.toJson = .ok c := by
  obtain ⟨c, hc⟩ := exists_contextOf_text i.message
  exact ⟨_, bind_eq_ok_iff.2 ⟨_, rfl, bind_eq_ok_iff.2 ⟨c, hc, rfl⟩⟩⟩

theorem exists_suggestionCard (s : Text) : ∃ c, suggestionCard (.text s) = .ok c := by
  obtain ⟨c, hc⟩ := exists_contextOf_text s
  exact ⟨_, bind_eq_ok_iff.2 ⟨c, hc, rfl⟩⟩

theorem exists_card (r : Report) : ∃ c, card r.toJson = .ok c := by
  obtain ⟨issues, hissues⟩ := exists_mapM_map_eq_ok exists_issueCard r.issues
  obtain ⟨suggestions, hsuggestions⟩ := exists_mapM_map_eq_ok exists_suggestionCard r.suggestions
  exact ⟨_, bind_eq_ok_iff.2 ⟨_, rfl, bind_eq_ok_iff.2 ⟨_, issuesOf_toJson r, bind_eq_ok_iff.2 ⟨issues, hissues,
    bind_eq_ok_iff.2 ⟨_, suggestionsOf_toJson r, bind_eq_ok_iff.2 ⟨suggestions, hsuggestions,
      bind_eq_ok_iff.2 ⟨r.isValid, rfl, rfl⟩⟩⟩⟩⟩⟩⟩

theorem exists_errorCount (r : Report) : ∃ n, errorCount r.toJson = .ok n := by
  have hseverity : ∀ i : Lint.Issue, ∃ v, i.toJson.member? "severity".toList = .ok v := fun i => ⟨_, rfl⟩
  obtain ⟨severities, h⟩ := exists_mapM_map_eq_ok hseverity r.issues
  exact ⟨_, bind_eq_ok_iff.2 ⟨_, issuesOf_toJson r, bind_eq_ok_iff.2 ⟨severities, h, rfl⟩⟩⟩

theorem beforeData_eq : Page.beforeData = "</div>\n\n<script>\n".toList ++ "const reports = ".toList := by
  decide

/-- The page of any reports is made. -/
theorem exists_html (time : Text) (reports : List Report) :
    ∃ front, html time (reports.map toJson) =
      .ok (front ++ "const reports = ".toList ++ embedded (reports.map toJson) ++ Page.bottom) := by
  have hvalid : ∀ r : Report, ∃ b, validOf r.toJson = .ok b := fun r => ⟨r.isValid, rfl⟩
  have hcount : ∀ r : Report, ∃ n, suggestionCount r.toJson = .ok n := fun r => ⟨_, rfl⟩
  obtain ⟨verdicts, hverdicts⟩ := exists_mapM_map_eq_ok hvalid reports
  obtain ⟨errors, herrors⟩ := exists_mapM_map_eq_ok exists_errorCount reports
  obtain ⟨counts, hcounts⟩ := exists_mapM_map_eq_ok hcount reports
  obtain ⟨cards, hcards⟩ := exists_mapM_map_eq_ok exists_card reports
  simp only [html, hverdicts, herrors, hcounts, hcards, Glyph.ofText_char, beforeData_eq, ← List.append_assoc]
  exact ⟨_, rfl⟩

/-! What stands in the script. -/

theorem hasPart_embedded_endTag (reports : List Json) : Text.hasPart "</".toList (embedded reports) = false :=
  Bool.eq_false_iff.2 fun h => Html.not_isInfix_guardScript _ (Text.hasPart_iff_isInfix.1 h)

theorem embedded_eq_guarded (reports : List Json) : embedded reports = (Json.list reports).guarded := rfl

theorem isExact_list (reports : List Report) : (Json.list (reports.map toJson)).IsExact :=
  .list (List.forall_mem_map.2 fun r _ => isExact_toJson r)

theorem read_embedded (reports : List Report) :
    Json.read (embedded (reports.map toJson)) = Json.read (Json.list (reports.map toJson)).compact := by
  rw [embedded_eq_guarded, (isExact_list reports).readsAs_guarded.read, (isExact_list reports).readsAs_compact.read]

/-- The page of any reports is made and holds them as data. No end tag stands in the data, and they are read as what
is read without the guard: these reports, as long as no line has a number that is too long to be read. -/
theorem html_embeds_reports (time : Text) (reports : List Report) :
    (∃ front, html time (reports.map toJson) =
      .ok (front ++ "const reports = ".toList ++ embedded (reports.map toJson) ++ Page.bottom)) ∧
    Text.hasPart "</".toList (embedded (reports.map toJson)) = false ∧
    Json.read (embedded (reports.map toJson)) = Json.read (Json.list (reports.map toJson)).compact ∧
    ((∀ r ∈ reports, ∀ i ∈ r.issues, Json.IsShort i.line) →
      Json.read (embedded (reports.map toJson)) = .ok (.list (reports.map toJson))) := by
  refine ⟨exists_html time reports, hasPart_embedded_endTag _, read_embedded reports, fun h => ?_⟩
  have hexcess : (Json.list (reports.map toJson)).excess? = none :=
    Json.excessItems?_eq_none (List.forall_mem_map.2 fun r hr => excess?_toJson (h r hr))
  rw [embedded_eq_guarded, (isExact_list reports).readsAs_guarded.read, hexcess]

/-- Runs of the characters that the guard and the literals treat apart. -/
def marked : Report where
  file := "</\"</".toList
  isValid := false
  issues := [⟨2, "<\\/ </ <//\n<</".toList, Lint.errorSeverity⟩]
  suggestions := ["</SCRIPT>".toList, "<".toList, "/".toList]
  buildability := []

theorem html_embeds_marked : (∀ i ∈ marked.issues, Json.IsShort i.line) ∧
    Json.read (embedded [marked.toJson]) = .ok (.list [marked.toJson]) := by
  have hshort : ∀ i ∈ marked.issues, Json.IsShort i.line := List.forall_mem_singleton.2 (by unfold Json.IsShort; decide)
  exact ⟨hshort, (html_embeds_reports [] [marked]).2.2.2 (List.forall_mem_singleton.2 hshort)⟩

theorem commentOpening_isInfix_embedded_iff (reports : List Report) :
    Html.commentOpening <:+: embedded (reports.map toJson) ↔
      ∃ r ∈ reports, ∃ t ∈ r.texts, Html.commentOpening <:+: t := by
  have hguard : Html.commentOpening <:+: embedded (reports.map toJson) ↔
      Html.commentOpening <:+: (Json.list (reports.map toJson)).compact :=
    Html.isInfix_guardScript_iff (by decide) (by decide)
  rw [hguard, Json.commentOpening_isInfix_list_iff]
  simp only [List.mem_map, exists_exists_and_eq_and, commentOpening_isInfix_toJson_iff]

theorem hasPart_lower_embedded (reports : List Json) :
    Text.hasPart "</script".toList ((embedded reports).map Char.toLower) = false :=
  Bool.eq_false_iff.2 fun h => Html.not_isInfix_lower_guardScript _ (Text.hasPart_iff_isInfix.1 h)

/-- No end tag of the script stands in the data, in capitals or not. What begins a comment stands there if it stands
in a text of a report. -/
theorem embedded_script_marks (reports : List Report) :
    Text.hasPart "</script".toList ((embedded (reports.map toJson)).map Char.toLower) = false ∧
    (Text.hasPart Html.commentOpening (embedded (reports.map toJson)) = true ↔
      ∃ r ∈ reports, ∃ t ∈ r.texts, Text.hasPart Html.commentOpening t = true) := by
  refine ⟨hasPart_lower_embedded _, ?_⟩
  simpa only [Text.hasPart_iff_isInfix] using commentOpening_isInfix_embedded_iff reports

/-- A line that is no instruction is quoted in a message, with what begins a comment in it. -/
theorem not_embedded_free_of_comments : ¬ ∀ reports : List Report,
    Text.hasPart "</script".toList ((embedded (reports.map toJson)).map Char.toLower) = false ∧
    Text.hasPart Html.commentOpening (embedded (reports.map toJson)) = false := by
  intro h
  have hpart := (h [ofResult "Dockerfile".toList "FROM a:1\n<!-- <script>".toList
    (Lint.checkWith [] "FROM a:1\n<!-- <script>".toList)]).2
  exact absurd hpart (by decide +kernel)

end Report

end Dockgraph
