import ExtensionBuild.Proofs.Resolution
import Mathlib.Data.List.Basic

/-! What the library tool prints comes out again as it was printed. A word of an answer loses the
switch in front of it when it is gathered under its category, and the flags of that category are
written with the same switch; so a complete pass neither loses nor alters a word. -/
namespace ExtensionBuild

/-- The switch that stands in front of a category's entries where they are written out. -/
def Category.switch : Category → String
  | .includeDirs => "-I"
  | .libraryDirs => "-L"
  | .libraries => "-l"
  | .compileArgs => ""
  | .linkArgs => ""

namespace Flags

/-- The entries of a category as they are written out. -/
def written (f : Flags) (c : Category) : List String := (f.get c).map (c.switch ++ ·)

theorem compileFlags_eq (f : Flags) :
    f.compileFlags =
      f.written .includeDirs ++ f.macros.map Define.flag ++ f.written .compileArgs := by
  simp [compileFlags, written, get, Category.switch]

theorem linkFlags_eq (f : Flags) :
    f.linkFlags = f.written .libraryDirs ++ f.written .libraries ++ f.written .linkArgs := by
  simp [linkFlags, written, get, Category.switch]

end Flags

namespace Query

def tokens (stdout : String) : List String := (Text.words stdout.toList).map String.ofList

/-- Every row strips as many characters as the switch of its category has. -/
theorem strip_eq : ∀ q ∈ table, q.strip = q.category.switch.length := by decide

theorem category_eq_iff_option_eq :
    ∀ q ∈ table, ∀ r ∈ table, (q.category == r.category) = (q.option == r.option) := by decide

theorem eq_of_option_eq : ∀ q ∈ table, ∀ r ∈ table, q.option = r.option → q = r := by decide

theorem map_switch_items (q : Query) {switch : String} (strip : q.strip = switch.length)
    {stdout : String} (switched : ∀ token ∈ tokens stdout, switch.toList <+: token.toList) :
    (q.items stdout).map (switch ++ ·) = tokens stdout := by
  rw [items_eq, tokens, List.map_map]
  apply List.map_congr_left
  intro word member
  obtain ⟨rest, same⟩ := switched _ (List.mem_map_of_mem member)
  rw [String.toList_ofList] at same
  have behind : word.drop q.strip = rest := by
    rw [strip, ← same, ← String.length_toList, List.drop_left]
  apply String.toList_injective
  simp [behind, same]

end Query

namespace Question

theorem query_mem_table {libraries : List String} {question : Question}
    (asked : question ∈ all libraries) : question.query ∈ Query.table := by
  obtain ⟨library, -, row⟩ := List.mem_flatMap.mp asked
  obtain ⟨q, tabled, rfl⟩ := List.mem_map.mp row
  exact tabled

/-- Every library is asked every question once. -/
theorem filter_all (libraries : List String) {q : Query} (row : q ∈ Query.table) :
    (all libraries).filter (·.query.option == q.option) = libraries.map (mk · q) := by
  have once (library : String) :
      (Query.table.map (mk library)).filter (·.query.option == q.option) = [⟨library, q⟩] := by
    simp only [Query.table, List.mem_cons, List.not_mem_nil, or_false] at row
    rcases row with rfl | rfl | rfl | rfl | rfl <;> rfl
  induction libraries with
  | nil => rfl
  | cons library rest ih =>
    change (Query.table.map (mk library) ++ all rest).filter _ = _
    rw [List.filter_append, once, ih]
    rfl

end Question

/-- The words of the answers to one option, in the order in which they came. -/
def printed (replies : List (Question × Answer)) (option : String) : List String :=
  (replies.filter (·.1.query.option == option)).flatMap fun r =>
    Query.tokens (Answer.stdout r.2)

/-- Gathering a row's words and writing its category out gives the words as they were printed. -/
theorem Flags.written_gather (base : Flags) {replies : List (Question × Answer)}
    (tabled : ∀ r ∈ replies, r.1.query ∈ Query.table) {q : Query} (row : q ∈ Query.table)
    (switched : ∀ token ∈ printed replies q.option, q.category.switch.toList <+: token.toList) :
    (base.gather replies).written q.category =
      base.written q.category ++ printed replies q.option := by
  have same : replies.filter (·.1.query.category == q.category) =
      replies.filter (·.1.query.option == q.option) :=
    List.filter_congr fun r member =>
      Query.category_eq_iff_option_eq _ (tabled r member) _ row
  rw [written, get_gather, same, List.map_append, List.map_flatMap, printed]
  congr 1
  apply List.flatMap_congr
  intro r member
  obtain ⟨listed, option⟩ := List.mem_filter.mp member
  have query : r.1.query = q :=
    Query.eq_of_option_eq _ (tabled r listed) _ row (by simpa using option)
  rw [query]
  apply Query.map_switch_items q (Query.strip_eq q row)
  intro token printed
  exact switched token (List.mem_flatMap.mpr ⟨r, member, printed⟩)

namespace PkgConfig

variable (executor : Executor σ) (p : PkgConfig) (libraries : List String) (base : Flags)
  (j : Journal σ)

theorem query_mem_table_of_replies {s : σ} {r : Question × Answer}
    (member : r ∈ p.replies executor (Question.all libraries) s) : r.1.query ∈ Query.table :=
  Question.query_mem_table (List.of_mem_zip member).1

/-- A row's question is answered once for every library, in the order of the libraries. -/
theorem filter_replies (s : σ) {q : Query} (row : q ∈ Query.table) :
    ((p.replies executor (Question.all libraries) s).filter
      (·.1.query.option == q.option)).map (·.1.library) = libraries := by
  have asked : (p.replies executor (Question.all libraries) s).map Prod.fst =
      Question.all libraries := List.map_fst_zip (by simp)
  calc
    _ = (((p.replies executor (Question.all libraries) s).map Prod.fst).filter
          (·.query.option == q.option)).map Question.library := by
        rw [List.filter_map, List.map_map]
        rfl
    _ = (libraries.map (Question.mk · q)).map Question.library := by
        rw [asked, Question.filter_all libraries row]
    _ = libraries := by rw [List.map_map]; exact List.map_id _

/-- A pass that is complete has gathered all answers, and these are what it exchanged. -/
theorem gather_of_complete {flags : Flags}
    (complete : (p.resolve executor libraries base j).1 = .complete flags) :
    let replies := p.replies executor (Question.all libraries) j.state
    flags = base.gather replies ∧
      (p.resolve executor libraries base j).2.exchanges =
        j.exchanges ++ replies.map fun r => (p.ask r.1, r.2) := by
  intro replies
  obtain ⟨result, exchanges, -⟩ := resolve_eq executor p libraries base j
  cases found : replies[unbroken replies]? with
  | some r =>
    rw [resolve_stopped executor p libraries base j rfl found] at complete
    cases complete
  | none =>
    rw [resolve_complete executor p libraries base j rfl found] at complete
    have all : replies.length ≤ unbroken replies := List.getElem?_eq_none_iff.mp found
    rw [List.take_of_length_le all] at complete
    refine ⟨(Resolution.complete.inj complete).symm, ?_⟩
    rw [exchanges, List.take_of_length_le (Nat.le_succ_of_le all)]

/-- A complete pass over answers that carry the switches of their options: the compiler and the
linker are given the entries of the base and the printed words as they were printed, those of every
library once and in the order of the libraries. -/
theorem flags_verbatim_of_complete {flags : Flags}
    (complete : (p.resolve executor libraries base j).1 = .complete flags)
    (switched : ∀ row ∈
      [("--cflags-only-I", "-I"), ("--libs-only-L", "-L"), ("--libs-only-l", "-l")],
      ∀ token ∈ printed (p.replies executor (Question.all libraries) j.state) row.1,
        row.2.toList <+: token.toList) :
    let replies := p.replies executor (Question.all libraries) j.state
    (p.resolve executor libraries base j).2.exchanges =
      j.exchanges ++ replies.map (fun r => (p.ask r.1, r.2)) ∧
    (∀ q ∈ Query.table,
      (replies.filter (·.1.query.option == q.option)).map (·.1.library) = libraries) ∧
    flags.compileFlags =
      base.includeDirs.map ("-I" ++ ·) ++ printed replies "--cflags-only-I" ++
        base.macros.map (fun d => "-D" ++ d.name ++ d.value.elim "" ("=" ++ ·)) ++
        base.compileArgs ++ printed replies "--cflags-only-other" ∧
    flags.linkFlags =
      base.libraryDirs.map ("-L" ++ ·) ++ printed replies "--libs-only-L" ++
        base.libraries.map ("-l" ++ ·) ++ printed replies "--libs-only-l" ++
        base.linkArgs ++ printed replies "--libs-only-other" := by
  intro replies
  obtain ⟨gathered, exchanges⟩ := gather_of_complete executor p libraries base j complete
  have row {q : Query} (tabled : q ∈ Query.table)
      (bare : ∀ token ∈ printed replies q.option, q.category.switch.toList <+: token.toList) :=
    base.written_gather (fun _ => query_mem_table_of_replies executor p libraries) tabled bare
  simp only [List.mem_cons, List.not_mem_nil, or_false, forall_eq_or_imp, forall_eq] at switched
  obtain ⟨includes, directories, names⟩ := switched
  refine ⟨exchanges, fun q => filter_replies executor p libraries j.state, ?_, ?_⟩
  · have include_row := row (q := ⟨.includeDirs, "--cflags-only-I", 2⟩) (by decide) includes
    have other_row := row (q := ⟨.compileArgs, "--cflags-only-other", 0⟩) (by decide)
      fun _ _ => List.nil_prefix
    rw [gathered, Flags.compileFlags_eq, Flags.macros_gather, include_row, other_row,
      Define.flag_eq]
    simp [replies, Flags.written, Flags.get, Category.switch]
  · have directory_row := row (q := ⟨.libraryDirs, "--libs-only-L", 2⟩) (by decide) directories
    have library_row := row (q := ⟨.libraries, "--libs-only-l", 2⟩) (by decide) names
    have other_row := row (q := ⟨.linkArgs, "--libs-only-other", 0⟩) (by decide)
      fun _ _ => List.nil_prefix
    rw [gathered, Flags.linkFlags_eq, directory_row, library_row, other_row]
    simp [replies, Flags.written, Flags.get, Category.switch]

/-- Two libraries that share an argument, which is printed and kept for each of them. -/
theorem flags_verbatim_of_two_libraries :
    let answer (c : Command) : Answer :=
      let stdout := match c.args with
        | ["--cflags-only-I", library] => "-I/opt/" ++ library ++ "\n -I/opt"
        | ["--libs-only-L", library] => "-L/opt/" ++ library
        | ["--libs-only-l", library] => "-l" ++ library ++ " -l"
        | _ => " -pthread\n"
      .ok ⟨some 0, stdout, ""⟩
    let executor : Executor Unit := .ofFunction answer
    let p : PkgConfig := ⟨Path.ofText "pkg-config", none⟩
    let base : Flags := ⟨["own"], ["lib"], ["m"], ["-O2"], ["-s"], [⟨"NDEBUG", none⟩]⟩
    let libraries := ["zlib", "osd"]
    let replies := p.replies executor (Question.all libraries) ()
    let flags := base.gather replies
    (p.resolve executor libraries base (.start ())).1 = .complete flags ∧
    (∀ row ∈ [("--cflags-only-I", "-I"), ("--libs-only-L", "-L"), ("--libs-only-l", "-l")],
      ∀ token ∈ printed replies row.1, row.2.toList <+: token.toList) ∧
    flags.compileFlags = ["-Iown", "-I/opt/zlib", "-I/opt", "-I/opt/osd", "-I/opt", "-DNDEBUG",
      "-O2", "-pthread", "-pthread"] ∧
    flags.linkFlags = ["-Llib", "-L/opt/zlib", "-L/opt/osd", "-lm", "-lzlib", "-l", "-losd", "-l",
      "-s", "-pthread", "-pthread"] := by
  intro answer executor p base libraries replies flags
  have complete : (p.resolve executor libraries base (.start ())).1 = .complete flags := by
    decide +kernel
  have switched : ∀ row ∈
      [("--cflags-only-I", "-I"), ("--libs-only-L", "-L"), ("--libs-only-l", "-l")],
      ∀ token ∈ printed replies row.1, row.2.toList <+: token.toList := by decide +kernel
  obtain ⟨-, -, compile, link⟩ :=
    flags_verbatim_of_complete executor p libraries base (.start ()) complete switched
  refine ⟨complete, switched, ?_, ?_⟩
  · rw [compile]
    decide +kernel
  · rw [link]
    decide +kernel

end PkgConfig
end ExtensionBuild
