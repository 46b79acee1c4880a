import Dockgraph.CommandLine.Request

/-! The words of an import or an export: a command, a file, and an output after `-o`. They ask for just that as long as
neither of the two paths begins with a hyphen. -/

namespace Dockgraph

namespace Arguments

variable {word : Text}

theorem tokenOf_of_head (f : Form) (h : word.head? ≠ some '-') : tokenOf f word = .ok (.operand word) := by
  rw [tokenOf, if_neg]
  simp [h]

theorem ne_separator_of_head (h : word.head? ≠ some '-') : word ≠ separator := by
  rintro rfl
  exact h rfl

end Arguments

namespace CommandLine

open Arguments

theorem output_ne_separator : "-o".toList ≠ Arguments.separator := by
  decide

variable {file output : Text} (hfile : file.head? ≠ some '-') (houtput : output.head? ≠ some '-')

include hfile houtput

/-- The form of a command that takes a file and an output. -/
theorem read_file_output (title : Text) :
    Arguments.read ⟨[help, outputSwitch], .one title⟩ [file, "-o".toList, output] =
      .ok ⟨[("--output".toList, output)], some [file], []⟩ := by
  let option : Token := .option "-o".toList (some ⟨outputSwitch, "-o".toList, none⟩)
  have hoption : tokenOf ⟨[help, outputSwitch], .one title⟩ "-o".toList = .ok option := rfl
  have htokens : tokens ⟨[help, outputSwitch], .one title⟩ [file, "-o".toList, output] =
      .ok [.operand file, option, .operand output] := by
    simp only [tokens, tokenOf_of_head _ hfile, tokenOf_of_head _ houtput, hoption, if_neg output_ne_separator,
      if_neg (ne_separator_of_head hfile), if_neg (ne_separator_of_head houtput)]
    rfl
  have hfirst : Arguments.take ⟨[help, outputSwitch], .one title⟩ ⟨[], none, []⟩ (.operand file)
      [option, .operand output] = .ok (⟨[], some [file], []⟩, 0) := by
    have haccept : [file].erase Arguments.separator = [file] :=
      List.erase_of_not_mem (by simpa using (ne_separator_of_head hfile).symm)
    show (Except.ok ([file].erase Arguments.separator) >>= fun words => _) = _
    rw [haccept]
    rfl
  have hall : takeAll ⟨[help, outputSwitch], .one title⟩ ⟨[], none, []⟩ 0 [.operand file, option, .operand output] =
      .ok ⟨[("--output".toList, output)], some [file], []⟩ := by
    rw [takeAll, hfirst]
    rfl
  rw [Arguments.read, htokens]
  exact congrArg (fun r => r >>= requireOperands ⟨[help, outputSwitch], .one title⟩) hall

/-- The form of all commands knows no `-o` and leaves it to the command. -/
theorem read_mainForm (name : CommandName) :
    Arguments.read mainForm [name.word, file, "-o".toList, output] =
      .ok ⟨[], some [name.word, file, "-o".toList, output], []⟩ := by
  have hname : name.word.head? ≠ some '-' := by
    cases name <;> decide
  have hoption : tokenOf mainForm "-o".toList = .ok (.option "-o".toList none) := rfl
  have htokens : tokens mainForm [name.word, file, "-o".toList, output] =
      .ok [.operand name.word, .operand file, .option "-o".toList none, .operand output] := by
    simp only [tokens, tokenOf_of_head _ hname, tokenOf_of_head _ hfile, tokenOf_of_head _ houtput, hoption,
      if_neg output_ne_separator, if_neg (ne_separator_of_head hname), if_neg (ne_separator_of_head hfile),
      if_neg (ne_separator_of_head houtput)]
    rfl
  rw [Arguments.read, htokens]
  cases name <;> rfl

theorem ofArguments_of_form (name : CommandName) {title : Text}
    (hform : name.form = ⟨[help, outputSwitch], .one title⟩) :
    Request.ofArguments [name.word, file, "-o".toList, output] =
      .ok ⟨false, Command.ofReading ⟨[("--output".toList, output)], some [file], []⟩ name⟩ := by
  have hword : CommandName.ofWord? name.word = some name := by
    cases name <;> rfl
  have hread := read_file_output hfile houtput title
  rw [← hform] at hread
  simp only [Request.ofArguments, read_mainForm hfile houtput, misuse, bind, Except.bind, List.headD_cons,
    List.tail_cons, hword, hread]
  rfl

omit hfile houtput in
theorem filled?_output (h : output ≠ []) (operands : Option (List Text)) :
    filled? ⟨[("--output".toList, output)], operands, []⟩ "--output" = some output := by
  cases output with
  | nil => exact absurd rfl h
  | cons => rfl

theorem ofArguments_import (h : output ≠ []) :
    Request.ofArguments ["import".toList, file, "-o".toList, output] =
      .ok ⟨false, .importFile file (some output)⟩ := by
  rw [← filled?_output h (some [file])]
  exact ofArguments_of_form hfile houtput .importFile rfl

theorem ofArguments_export (h : output ≠ []) :
    Request.ofArguments ["export".toList, file, "-o".toList, output] =
      .ok ⟨false, .exportGraph file (some output)⟩ := by
  rw [← filled?_output h (some [file])]
  exact ofArguments_of_form hfile houtput .exportGraph rfl

end CommandLine

end Dockgraph
