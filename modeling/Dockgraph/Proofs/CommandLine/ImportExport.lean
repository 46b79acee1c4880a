import Dockgraph.Proofs.CommandLine.Export
import Dockgraph.Proofs.CommandLine.Words
import Dockgraph.Proofs.File.Write
import Dockgraph.Proofs.Script.Placement
import Dockgraph.Proofs.Text.Encoding

/-! An import and the export of what it wrote. The document on the way is written in ASCII and read back as it is, its
graph differs from the imported one in nothing that shows in the text, and a file that is written takes no other path
away; so the export writes the text that the import makes of the Dockerfile. -/

namespace Dockgraph

/-- A path that can be written to. -/
def Disk.CanWrite (d : Disk) (path : Text) : Prop :=
  ∃ content written, d.write path content = .ok written

theorem Disk.CanWrite.ne_nil {d : Disk} {path : Text} (h : d.CanWrite path) : path ≠ [] := by
  rintro rfl
  obtain ⟨_, _, hwrite⟩ := h
  cases hwrite

/-- The characters of documents are ASCII, and none is a carriage return. -/
theorem Json.of_isWritten {c : Char} (h : isWritten c = true) : c.toNat < 0x80 ∧ c ≠ '\r' := by
  rw [isWritten, Bool.or_eq_true, beq_iff_eq, Bool.and_eq_true, decide_eq_true_eq, decide_eq_true_eq] at h
  rcases h with rfl | ⟨hlow, hhigh⟩
  · decide
  · have hmax : c.toNat ≤ 126 := hhigh
    refine ⟨by omega, ?_⟩
    rintro rfl
    exact absurd hlow (by decide)

/-- A plain document that is written to a file is loaded from it. -/
theorem Disk.load_of_read {d : Disk} {path : Text} {v : Json} (hv : v.IsPlain)
    (hread : d.read path = .ok (Encoding.encode (v.indented 0))) : d.load path = .ok v := by
  have hall : ∀ c ∈ v.indented 0, c.toNat < 0x80 ∧ c ≠ '\r' :=
    fun c hc => Json.of_isWritten (List.all_eq_true.1 (hv.all_indented 0) c hc)
  have hlines := Encoding.normaliseLines_of_notMem fun hm => (hall _ hm).2 rfl
  have hback : Json.readAs Char (v.indented 0) = .ok v := hv.read_indented
  simp only [load, loadAs, hread, Encoding.decode_encode, hlines, hback]

namespace CommandLine

open Act

variable {d d' : Disk} {path file content : Text}

/-! Runs that come to an end. -/

theorem leads_writeOutput (h : d.write path (Encoding.encode content) = .ok d') :
    Leads (writeOutput content (some path)) d () d' :=
  (leads_writeFile h).bind (leads_tell _ _)

/-- The editor after an import. -/
def importedEditor (s : Surroundings) (file content : Text) : Editor :=
  ((newEditor s).importText content (some (Path.baseName file))).editor

theorem leads_importFile (s : Surroundings) (hread : d.readText file = .ok content)
    (hwrite : d.write path (Encoding.encode ((graphDocument (importedEditor s file content)).indented 0)) = .ok d') :
    Leads (importFile s file (some path)) d 0 d' := by
  refine (leads_disk d).bind ?_
  rw [hread]
  exact (leads_pure (importedEditor s file content) d).bind <| (leads_tellAll _ d).bind <|
    (leads_writeOutput hwrite).bind (leads_pure 0 d')

theorem leads_edited_loadDocument (e : Editor) {document : Json} {g : Graph} (hg : Graph.ofJson document = .ok g)
    (name : Option Text) (d : Disk) : Leads (edited e (.loadDocument document name)) d (e.loadGraph g name) d := by
  intro t ht
  rw [run_edited_loadDocument, hg]
  exact ⟨t, rfl, ht⟩

theorem leads_exportGraph (s : Surroundings) {document : Json} {g : Graph} (hload : d.load file = .ok document)
    (hg : Graph.ofJson document = .ok g) (hwrite : d.write path (Encoding.encode g.text) = .ok d') :
    Leads (exportGraph s file (some path)) d 0 d' := by
  refine (leads_disk d).bind <| (leads_orRefuse _ hload d).bind <|
    (leads_edited_loadDocument (newEditor s) hg _ d).bind <| (leads_tellAll _ d).bind ?_
  have hend : Leads (writeOutput ((newEditor s).loadGraph g (fileNameIn document)).content (some path) >>= fun _ => pure 0) d 0 d' :=
    (leads_writeOutput hwrite).bind (leads_pure 0 d')
  simp only [Option.isSome_some, Bool.true_and, if_true]
  split_ifs
  · exact (leads_tell _ d).bind hend
  · exact hend

/-- A run whose command comes to a code ends with it, on the disk that the command leaves. -/
theorem run_of_leads {s : Surroundings} {r : Request} {n : Nat} (h : Leads (r.act s) d n d') :
    (r.run s d).exit = .code n ∧ (r.run s d).trace.disk = d' := by
  obtain ⟨t, hrun, hdisk⟩ := h (Trace.start d) rfl
  rw [Request.run, hrun]
  exact ⟨rfl, hdisk⟩

/-- The import of a file of any bytes to a path that can be written to, and the export from there to another one, both
end with code 0. The document in between is loaded as it was written and makes a graph with all nodes and edges in their
places, whose coordinates alone are doubles now; and what is written at the end is the text of the imported graph. The
current folder has to be there, and no file is so long that the place of a line would be beyond the doubles. The words
of the two requests ask for them as long as no path looks like an option. -/
theorem import_then_export (s s' : Surroundings) (verbose verbose' : Bool) {d : Disk} {file graph output : Text}
    {bytes : Encoding.Bytes} (hhere : d.isFolder Path.here = true) (hread : d.read file = .ok bytes)
    (hsize : bytes.length < 2 ^ 1000) (hgraph : d.CanWrite graph) (houtput : d.CanWrite output) :
    let content := Encoding.normaliseLines (Encoding.decodeLenient bytes)
    let g := (Script.parse content (.ofSession s.session)).1
    let document := Json.object (g.toFields ++
      [("file_name".toList, .text (Editor.nameOrDefault (some (Path.baseName file))))])
    let imported := Request.run s d ⟨verbose, .importFile file (some graph)⟩
    let exported := Request.run s' imported.trace.disk ⟨verbose', .exportGraph graph (some output)⟩
    imported.exit = .code 0 ∧ exported.exit = .code 0 ∧
      exported.trace.disk.read output = .ok (Encoding.encode (Script.render g.ordered)) ∧
      imported.trace.disk.load graph = .ok document ∧
      (∃ g', Graph.ofJson document = .ok g' ∧ g'.nodes.items = g.nodes.items.map Node.settled ∧
        g'.edges = g.edges) ∧
      (file.head? ≠ some '-' → graph.head? ≠ some '-' → output.head? ≠ some '-' →
        Request.ofArguments ["import".toList, file, "-o".toList, graph] =
          .ok ⟨false, .importFile file (some graph)⟩ ∧
        Request.ofArguments ["export".toList, graph, "-o".toList, output] =
          .ok ⟨false, .exportGraph graph (some output)⟩) := by
  intro content g document imported exported
  have hcontent : d.readText file = .ok content := by
    rw [Disk.readText, hread]
    rfl
  have hlen : content.length < 2 ^ 1000 :=
    Nat.lt_of_le_of_lt ((Encoding.length_normaliseLines_le _).trans (Encoding.length_decodeLenient_le bytes)) hsize
  have hwords (hf : file.head? ≠ some '-') (hg : graph.head? ≠ some '-') (ho : output.head? ≠ some '-') :=
    And.intro (ofArguments_import hf hg hgraph.ne_nil) (ofArguments_export hg ho houtput.ne_nil)
  obtain ⟨_, _, hfirst⟩ := hgraph
  obtain ⟨_, _, hsecond⟩ := houtput
  obtain ⟨folder, htakes⟩ := Disk.exists_takes_of_write hhere hfirst
  obtain ⟨folder', htakes'⟩ := Disk.exists_takes_of_write hhere hsecond
  -- the import
  have hplain : document.IsPlain :=
    Script.isPlain_document hlen (.ofSession s.session) (some (Editor.nameOrDefault (some (Path.baseName file))))
  have hwrite := htakes.write (Encoding.encode (document.indented 0))
  obtain ⟨himported, hdisk⟩ := run_of_leads (r := ⟨verbose, .importFile file (some graph)⟩)
    (leads_importFile s hcontent hwrite)
  have hload : imported.trace.disk.load graph = .ok document := by
    refine Disk.load_of_read hplain ?_
    rw [hdisk]
    exact htakes.read_write hwrite
  -- the export
  obtain ⟨g', hg', hnodes, hedges⟩ := Graph.ofJson_toFields (g := g)
    (fun n hn => Script.isReadable_of_mem_parse hlen hn)
    [("file_name".toList, .text (Editor.nameOrDefault (some (Path.baseName file))))]
  have htext : g'.text = g.text :=
    Graph.text_of_map (f := Node.settled) (fun _ => rfl) Node.line?_settled hnodes (congrArg Registry.items hedges)
  have hafter : imported.trace.disk.Takes output folder' := by
    rw [hdisk]
    exact htakes'.after_write htakes hwrite
  have hwrite' := hafter.write (Encoding.encode g'.text)
  obtain ⟨hexported, hdisk'⟩ := run_of_leads (r := ⟨verbose', .exportGraph graph (some output)⟩)
    (leads_exportGraph s' hload hg' hwrite')
  refine ⟨himported, hexported, ?_, hload, ⟨g', hg', hnodes, hedges⟩, hwords⟩
  rw [hdisk', ← Graph.text, ← htext]
  exact hafter.read_write hwrite'

/-- A Dockerfile with a faulty byte, a character beyond sixteen bits and line ends of three styles. -/
def mixedFile : Encoding.Bytes :=
  Encoding.encode "ARG é=\"\r\n# b\rfrom \\".toList ++ 0xff :: Encoding.encode "\n\t😀 AS c\r\nRUN".toList

/-- A disk with that file alone. -/
def mixedDisk : Disk :=
  ⟨.folder [("Dockerfile".toList, .file mixedFile)], []⟩

/-- The export writes over the file that the import has read. -/
theorem import_then_export_mixed :
    let s : Surroundings := ⟨.zero, [], [], none, "s".toList⟩
    let imported := Request.run s mixedDisk ⟨false, .importFile "Dockerfile".toList (some "g.json".toList)⟩
    let exported := Request.run s imported.trace.disk ⟨true, .exportGraph "g.json".toList (some "./Dockerfile".toList)⟩
    mixedDisk.read "Dockerfile".toList = .ok mixedFile ∧ imported.exit = .code 0 ∧ exported.exit = .code 0 ∧
      exported.trace.disk.read "./Dockerfile".toList = .ok (Encoding.encode "ARG é=\"\nFROM 😀 AS c".toList) ∧
      Request.ofArguments ["import".toList, "Dockerfile".toList, "-o".toList, "g.json".toList] =
        .ok ⟨false, .importFile "Dockerfile".toList (some "g.json".toList)⟩ := by
  have hread : mixedDisk.read "Dockerfile".toList = .ok mixedFile := rfl
  have hsize : mixedFile.length < 2 ^ 1000 := by decide +kernel
  have hgraph : mixedDisk.CanWrite "g.json".toList := ⟨[], _, rfl⟩
  have houtput : mixedDisk.CanWrite "./Dockerfile".toList := ⟨[], _, rfl⟩
  have htext : Script.render (Script.parse (Encoding.normaliseLines (Encoding.decodeLenient mixedFile))
      (.ofSession "s".toList)).1.ordered = "ARG é=\"\nFROM 😀 AS c".toList := by
    decide +kernel
  obtain ⟨himported, hexported, hwritten, -, -, hwords⟩ :=
    import_then_export ⟨.zero, [], [], none, "s".toList⟩ ⟨.zero, [], [], none, "s".toList⟩ false true
      (d := mixedDisk) rfl hread hsize hgraph houtput
  rw [htext] at hwritten
  exact ⟨hread, himported, hexported, hwritten, (hwords (by decide) (by decide) (by decide)).1⟩

end CommandLine

end Dockgraph
