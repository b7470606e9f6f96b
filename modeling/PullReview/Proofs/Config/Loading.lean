import Mathlib.Data.List.Basic
import PullReview.Proofs.Config
import PullReview.Proofs.Failure

/-!
# Loading sections

A file that is missing counts as one without sections, and so does a text that breaks the rules of
its notation. Bytes that are no text are another matter, and so is a text at which the reader fails
in its own way: nothing can be loaded from them. A section that is no table can be loaded only if it
is a list of pairs, and not even then for the analysis; the language model also takes a value that
counts as absent.
-/

namespace PullReview.Config

open Toml (Value)

variable {ρ ω : Type}

/-! ### Values for tables -/

/-- A value that can be the key of a member. -/
def IsKey : Value → Prop
  | .arr _ | .obj _ => False
  | _ => True

/-- A value of two parts, the first of which can be a key. -/
inductive IsPair : Value → Prop
  | list {key : Value} (hkey : IsKey key) (value : Value) : IsPair (.arr [key, value])
  | text (first second : Char) : IsPair (.str (String.ofList [first, second]))
  | table (first second : String × Value) : IsPair (.obj [first, second])

/-- A value that gives the members of a section. -/
inductive TableLike : Value → Prop
  | table (members : Members) : TableLike (.obj members)
  | pairs {items : List Value} (h : ∀ item ∈ items, IsPair item) : TableLike (.arr items)
  | empty : TableLike (.str "")

private theorem keyOf_ok_iff {v : Value} :
    (∃ key, (keyOf v : Result ρ ω String) = .ok key) ↔ IsKey v := by
  cases v <;> simp [keyOf, IsKey]

private theorem parts?_eq_pair_iff {v : Value} :
    (∃ key value, parts? v = some [key, value] ∧ IsKey key) ↔ IsPair v := by
  constructor
  · rintro ⟨key, value, hparts, hkey⟩
    cases v with
    | null | bool _ | int _ | float _ | moment _ => cases hparts
    | arr items =>
        rw [Option.some.inj hparts]
        exact .list hkey value
    | str s =>
        obtain ⟨first, second, hs⟩ : ∃ first second, s.toList = [first, second] := by
          rw [← List.length_eq_two]
          simpa using congrArg List.length (Option.some.inj hparts)
        rw [← s.ofList_toList, hs]
        exact .text first second
    | obj members =>
        obtain ⟨first, second, rfl⟩ : ∃ first second, members = [first, second] := by
          rw [← List.length_eq_two]
          simpa using congrArg List.length (Option.some.inj hparts)
        exact .table first second
  · rintro (⟨hkey, value⟩ | ⟨first, second⟩ | ⟨first, second⟩)
    · exact ⟨_, value, rfl, hkey⟩
    · exact ⟨.str (String.singleton first), .str (String.singleton second), by simp [parts?],
        trivial⟩
    · exact ⟨.str first.1, .str second.1, rfl, trivial⟩

private theorem addPair_ok_iff {members : Members} {item : Nat × Value} :
    (∃ added, (addPair members item : Result ρ ω Members) = .ok added) ↔ IsPair item.2 := by
  rw [← parts?_eq_pair_iff, addPair]
  split
  · rename_i hparts
    simp [hparts]
  · rename_i key value hparts
    rw [hparts]
    constructor
    · rintro ⟨added, hadded⟩
      obtain ⟨name, hname, _⟩ := bind_ok hadded
      exact ⟨key, value, rfl, keyOf_ok_iff.mp ⟨name, hname⟩⟩
    · rintro ⟨key', value', heq, hkey⟩
      cases heq
      obtain ⟨name, hname⟩ := keyOf_ok_iff.mpr hkey
      rw [hname]
      exact ⟨_, rfl⟩
  · rename_i parts hother hparts
    constructor
    · rintro ⟨added, hadded⟩
      cases hadded
    · rintro ⟨key, value, heq, _⟩
      rw [hparts] at heq
      exact (hother key value (Option.some.inj heq)).elim

private theorem addPairs_ok_iff (items : List Value) :
    (∃ members, ((items.zipIdx.map fun i => (i.2, i.1)).foldlM addPair [] : Result ρ ω Members) =
      .ok members) ↔ ∀ item ∈ items, IsPair item := by
  have hitems : items.zipIdx.map Prod.fst = items := by simp
  have hadd (members : Members) (item : Nat × Value) :
      (∃ added, (addPair members item : Result ρ ω Members) = .ok added) ↔ IsPair item.2 :=
    addPair_ok_iff
  rw [exists_foldlM_ok_iff hadd, List.forall_mem_map]
  conv_rhs => rw [← hitems, List.forall_mem_map]

private theorem asMembers_ok_iff {v : Value} :
    (∃ members, (asMembers v : Result ρ ω Members) = .ok members) ↔ TableLike v := by
  cases v with
  | null | bool _ | int _ | float _ | moment _ =>
      constructor
      · rintro ⟨members, h⟩
        cases h
      · intro h
        cases h
  | obj members => exact iff_of_true ⟨members, rfl⟩ (.table members)
  | arr items =>
      refine (addPairs_ok_iff items).trans ⟨.pairs, ?_⟩
      rintro (_ | hpairs)
      exact hpairs
  | str s =>
      refine (addPairs_ok_iff _).trans ⟨fun hpairs => ?_, ?_⟩
      · rw [List.forall_mem_map] at hpairs
        have hempty : s.toList = [] := by
          apply List.eq_nil_iff_forall_not_mem.mpr
          intro c hc
          -- one character is not enough for a pair
          have hpair := hpairs c hc
          generalize hs : String.singleton c = t at hpair
          cases hpair with
          | text first second =>
              have hlength := congrArg (fun s : String => s.toList.length) hs
              simp at hlength
        rw [String.toList_eq_nil_iff.mp hempty]
        exact .empty
      · rintro ⟨⟩
        simp

/-! ### Loaders -/

/-- What is asked of a file. -/
inductive Loader where
  | sections
  | languageModel
  | embedding
  | analysis

namespace Loader

/-- What a loader makes of the sections of a file. -/
def view : Loader → Members → Result ρ ω Members
  | sections => .ok
  | languageModel => Config.languageModel
  | embedding => Config.embedding
  | analysis => Config.analysis

def run (f : Format ρ ω) (home : List String) (t : FileTree) (l : Loader) : Result ρ ω Members := do
  l.view (← f.load home t)

/-- What a loader answers if all sections are tables. -/
def answer (tables : Members) : Loader → Members
  | sections => tables
  | languageModel =>
      if (tableOf tables modelSection).isEmpty then providerDefaults "ollama"
      else tableOf tables modelSection
  | embedding => tableOf tables embeddingSection
  | analysis => known (tableOf tables analysisSection)

/-- Sections that a loader can use. Only the language model may be a value that counts as absent. -/
def Accepts (sections : Members) : Loader → Prop
  | .sections => True
  | languageModel =>
      ∀ v, sections.lookup modelSection = some v → v.isTruthy = true → TableLike v
  | embedding => ∀ v, sections.lookup embeddingSection = some v → TableLike v
  | analysis => ∀ v, sections.lookup analysisSection = some v → ∃ members, v = .obj members

private theorem view_of_allTables {tables : Members} (h : AllTables tables) (l : Loader) :
    (l.view tables : Result ρ ω Members) = .ok (l.answer tables) := by
  cases l with
  | sections => rfl
  | languageModel => exact h.languageModel_eq
  | embedding => exact h.membersOf_eq embeddingSection
  | analysis => exact h.analysis_eq

private theorem view_ok_iff {sections : Members} {l : Loader} :
    (∃ members, (l.view sections : Result ρ ω Members) = .ok members) ↔ l.Accepts sections := by
  cases l with
  | sections => exact iff_of_true ⟨sections, rfl⟩ trivial
  | languageModel =>
      rw [view, Config.languageModel, Accepts]
      cases hlookup : sections.lookup modelSection with
      | none => simp
      | some v =>
          by_cases hv : v.isTruthy = true
          · rw [Option.filter_some_pos hv, asMembers_ok_iff]
            simp [hv]
          · rw [Option.filter_some_neg (by simpa using hv)]
            simp [hv]
  | embedding =>
      rw [view, Config.embedding, membersOf, asMembers_ok_iff, Accepts]
      cases sections.lookup embeddingSection with
      | none => simpa using TableLike.table []
      | some v => simp
  | analysis =>
      rw [view, Config.analysis, Accepts]
      cases sections.lookup analysisSection with
      | none => simp
      | some v => cases v <;> simp

end Loader

/-! ### Files -/

/-- The file cannot be read, or it is a text that breaks the rules of the notation. -/
def Unusable (f : Format ρ ω) (home : List String) (t : FileTree) : Prop :=
  ∀ bytes, t.read (home ++ [fileName]) = .ok bytes →
    ∃ text : String, bytes = text.toUTF8.toList ∧ f.read (plain text) = .error .malformed

private theorem text_eq_of_bytes_eq {a b : String} (h : a.toUTF8.toList = b.toUTF8.toList) :
    a = b := by
  have hdecoded := Text.Utf8.decode_toUTF8 a
  rw [h, Text.Utf8.decode_toUTF8] at hdecoded
  exact (Except.ok.inj hdecoded).symm

section Files

variable {f : Format ρ ω} {home : List String} {t : FileTree}

private theorem load_of_read_error {e : FileError}
    (hread : t.read (home ++ [fileName]) = .error e) : f.load home t = .ok [] := by
  simp only [Format.load, hread]

private theorem load_of_read_text {text : String}
    (hread : t.read (home ++ [fileName]) = .ok text.toUTF8.toList) :
    f.load home t = f.sectionsOf (plain text) := by
  have hdecoded := decodeText_ok_iff.mpr ⟨text, rfl, rfl⟩
  simp only [Format.load, hread, hdecoded]

private theorem load_of_read_bytes {bytes : List UInt8}
    (hread : t.read (home ++ [fileName]) = .ok bytes)
    (hbytes : ∀ text : String, bytes ≠ text.toUTF8.toList) :
    ∃ e, f.load home t = .error (.undecodable e) := by
  cases hdecoded : FileTree.decodeText bytes with
  | error e => exact ⟨e, by simp only [Format.load, hread, hdecoded]⟩
  | ok text =>
      obtain ⟨written, hwritten, _⟩ := decodeText_ok_iff.mp hdecoded
      exact absurd hwritten (hbytes written)

theorem Unusable.load_eq (h : Unusable f home t) : f.load home t = .ok [] := by
  cases hread : t.read (home ++ [fileName]) with
  | error e => exact load_of_read_error hread
  | ok bytes =>
      obtain ⟨text, rfl, hmalformed⟩ := h bytes hread
      rw [load_of_read_text hread, Format.sectionsOf, hmalformed]

private theorem Loader.run_of_load {sections : Members} (h : f.load home t = .ok sections)
    (l : Loader) : l.run f home t = l.view sections := by
  rw [run, h]
  rfl

theorem Loader.run_of_load_error {e : FaultOf ρ ω} (h : f.load home t = .error e) (l : Loader) :
    l.run f home t = .error e := by
  rw [run, h]
  rfl

private theorem Loader.run_of_unusable (h : Unusable f home t) (l : Loader) :
    l.run f home t = .ok (l.answer []) :=
  (l.run_of_load h.load_eq).trans (l.view_of_allTables (by simp [AllTables]))

/-- A text is enough for a loader if it breaks the rules, or says sections that the loader can
use. -/
theorem Loader.run_ok_iff_of_read_text {text : String}
    (hread : t.read (home ++ [fileName]) = .ok text.toUTF8.toList) (l : Loader) :
    (∃ members, l.run f home t = .ok members) ↔
      f.read (plain text) = .error .malformed ∨
        ∃ sections, f.read (plain text) = .ok sections ∧ l.Accepts sections := by
  have hload : f.load home t = f.sectionsOf (plain text) := load_of_read_text hread
  rw [Format.sectionsOf] at hload
  cases hsections : f.read (plain text) with
  | ok sections =>
      rw [hsections] at hload
      rw [l.run_of_load hload, Loader.view_ok_iff]
      simp
  | error e =>
      rw [hsections] at hload
      cases e with
      | malformed =>
          rw [l.run_of_load hload, l.view_of_allTables (by simp [AllTables])]
          simp
      | failed e =>
          rw [l.run_of_load_error hload]
          simp

end Files

/-- In any notation, a loader answers unless the bytes of the file are no text, the reader fails at
the text in its own way, or the file has a section that the loader cannot use. Without a file, or
with one that breaks the rules, it answers as it does if there are no sections. -/
theorem loader_answers_iff (f : Format ρ ω) (home : List String) (t : FileTree) (l : Loader) :
    ((∃ members, l.run f home t = .ok members) ↔
      ∀ bytes, t.read (home ++ [fileName]) = .ok bytes →
        ∃ text : String, bytes = text.toUTF8.toList ∧
          (f.read (plain text) = .error .malformed ∨
            ∃ sections, f.read (plain text) = .ok sections ∧ l.Accepts sections)) ∧
    (Unusable f home t → l.run f home t = .ok (l.answer [])) ∧
    (∀ tables, States f home t tables → AllTables tables →
      l.run f home t = .ok (l.answer tables)) := by
  refine ⟨?_, fun h => l.run_of_unusable h, fun tables hstates htables => ?_⟩
  · cases hread : t.read (home ++ [fileName]) with
    | error e =>
        rw [l.run_of_load (load_of_read_error hread), l.view_of_allTables (by simp [AllTables])]
        simp
    | ok bytes =>
        by_cases hbytes : ∃ text : String, bytes = text.toUTF8.toList
        · obtain ⟨text, rfl⟩ := hbytes
          rw [l.run_ok_iff_of_read_text hread]
          constructor
          · rintro h bytes ⟨⟩
            exact ⟨text, rfl, h⟩
          · intro h
            obtain ⟨text', htext, h⟩ := h _ rfl
            rwa [← text_eq_of_bytes_eq htext] at h
        · obtain ⟨e, he⟩ := load_of_read_bytes (f := f) hread (by simpa using hbytes)
          rw [l.run_of_load_error he]
          refine iff_of_false (by simp) fun h => ?_
          obtain ⟨text, htext, _⟩ := h bytes rfl
          exact hbytes ⟨text, htext⟩
  · rw [l.run_of_load hstates.load_eq, l.view_of_allTables htables]

/-- A home directory with the bytes of a file. -/
def homeHolding (bytes : List UInt8) : FileTree :=
  ⟨[(["home"], .directory), (["home", fileName], .file bytes)]⟩

/-- The language model is a list of pairs. -/
def pairsText : String :=
  "llm = [[\"provider\", \"openai\"], [\"model\", \"m\"]]\r\nembeddings = \"\"\n"

def pairsSections : Members :=
  [("llm", .arr [.arr [.str "provider", .str "openai"], .arr [.str "model", .str "m"]]),
    ("embeddings", .str "")]

private theorem read_examples : Toml.read? (plain pairsText) = some pairsSections ∧
    Toml.read? (plain "llm = 5\n") = some [("llm", .int 5)] ∧
    Toml.read? (plain "embeddings = 1\n") = some [("embeddings", .int 1)] ∧
    Toml.read? (plain "analysis = 3\n") = some [("analysis", .int 3)] ∧
    Toml.read? (plain "llm = 1979-05-27\n") =
      some [("llm", .moment (.date ⟨1979, 5, 27, by decide, by decide, by decide⟩))] ∧
    Toml.read? (plain "analysis = 07:32:00\n") =
      some [("analysis",
        .moment (.time ⟨7, 32, 0, 0, by decide, by decide, by decide, by decide⟩))] := by
  decide +kernel

theorem list_of_pairs_answered :
    toml.read (plain pairsText) = .ok pairsSections ∧
      ∃ members, Loader.languageModel.run toml ["home"] (homeHolding pairsText.toUTF8.toList) =
        .ok members := by
  have hsections := read_toml_ok_iff.mpr read_examples.1
  refine ⟨hsections, (loader_answers_iff _ _ _ _).1.mpr fun bytes hbytes => ?_⟩
  refine ⟨pairsText, (Except.ok.inj hbytes).symm, .inr ⟨pairsSections, hsections, ?_⟩⟩
  intro v hv _
  obtain rfl := Option.some.inj hv
  have hkey (name : String) : IsKey (.str name) := trivial
  apply TableLike.pairs
  simp only [List.forall_mem_cons]
  exact ⟨.list (hkey "provider") _, .list (hkey "model") _, by simp⟩

private theorem run_homeHolding {text : String} {sections : Members}
    (h : Toml.read? (plain text) = some sections) (l : Loader) :
    l.run toml ["home"] (homeHolding text.toUTF8.toList) = l.view sections :=
  l.run_of_load (States.load_eq ⟨text.toUTF8.toList, plain text, rfl,
    decodeText_ok_iff.mpr ⟨text, rfl, rfl⟩, read_toml_ok_iff.mpr h⟩)

theorem bad_file_refused :
    (∀ l : Loader, l.run toml ["home"] (homeHolding [0xFF]) =
      .error (.undecodable ⟨.start, 0, 1, 0xFF⟩)) ∧
    Loader.languageModel.run toml ["home"] (homeHolding "llm = 5\n".toUTF8.toList) =
      .error (.notIterable "int") ∧
    Loader.embedding.run toml ["home"] (homeHolding "embeddings = 1\n".toUTF8.toList) =
      .error (.notIterable "int") ∧
    Loader.analysis.run toml ["home"] (homeHolding "analysis = 3\n".toUTF8.toList) =
      .error (.noMembers "int") ∧
    Loader.languageModel.run toml ["home"] (homeHolding "llm = 1979-05-27\n".toUTF8.toList) =
      .error (.notIterable "datetime.date") ∧
    Loader.analysis.run toml ["home"] (homeHolding "analysis = 07:32:00\n".toUTF8.toList) =
      .error (.noMembers "datetime.time") := by
  obtain ⟨_, hmodel, hembedding, hanalysis, hdate, htime⟩ := read_examples
  exact ⟨fun _ => rfl, run_homeHolding hmodel _, run_homeHolding hembedding _,
    run_homeHolding hanalysis _, run_homeHolding hdate _, run_homeHolding htime _⟩

end PullReview.Config
