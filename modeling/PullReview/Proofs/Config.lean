import PullReview.Config
import PullReview.Proofs.FileTree.Change
import PullReview.Proofs.Table
import PullReview.Proofs.Text.Utf8
import PullReview.Proofs.Toml.Writer

/-!
# Saving sections

After any run of saves the file says what it said before, with each saved section replaced by its
last save, and with the known settings of the analysis laid over the old ones in order. So saves of
different sections can be exchanged. A file that breaks the rules of its notation is another matter:
a save writes its own section and nothing else. All of it holds for every notation.
-/

namespace PullReview

/-! ### Members -/

namespace Json

open Table (lookup_cons_eq)

variable {α : Type}

private theorem lookup_map_set (members : List (String × α)) (key other : String) (value : α) :
    (members.map fun m => if m.1 == key then (key, value) else m).lookup other =
      if other = key then if members.any (·.1 == key) then some value else none
      else members.lookup other := by
  induction members with
  | nil => simp
  | cons m rest ih =>
      rw [List.map_cons, lookup_cons_eq, lookup_cons_eq, ih, List.any_cons]
      by_cases hm : m.1 = key
      · by_cases hother : other = key <;> simp [hm, hother]
      · by_cases hother : other = key
        · have hne : (m.1 == key) = false := by simpa using hm
          simp only [hne, hother, Bool.false_or, Bool.false_eq_true, if_false, if_true,
            if_neg (Ne.symm hm)]
        · simp [hm, hother]

private theorem lookup_setMember (members : List (String × α)) (key other : String) (value : α) :
    (setMember members key value).lookup other =
      if other = key then some value else members.lookup other := by
  rw [setMember]
  split
  · rename_i hany
    rw [lookup_map_set, if_pos hany]
  · rename_i hany
    have hnone : members.lookup key = none := by
      rw [List.lookup_eq_none_iff]
      intro m hm
      simp only [List.any_eq_true, not_exists, not_and] at hany
      have hne := hany m hm
      simp only [beq_iff_eq] at hne
      simpa using Ne.symm hne
    rw [List.lookup_append, lookup_cons_eq]
    by_cases hother : other = key
    · simp [hother, hnone]
    · simp [hother]

private theorem lookup_foldl_setMember (new old : List (String × α)) (key : String) :
    (new.foldl (fun ms m => setMember ms m.1 m.2) old).lookup key =
      (new.reverse.lookup key).or (old.lookup key) := by
  induction new generalizing old with
  | nil => simp
  | cons m rest ih =>
      rw [List.foldl_cons, ih, lookup_setMember, List.reverse_cons, List.lookup_append,
        Option.or_assoc, lookup_cons_eq]
      by_cases hkey : key = m.1 <;> simp [hkey]

end Json

namespace Config

variable {ρ ω : Type}

private theorem lookup_overlay (old new : Members) (key : String) :
    (overlay old new).lookup key =
      if analysisKeys.contains key then (new.reverse.lookup key).or (old.lookup key)
      else old.lookup key := by
  have hreverse : (known new).reverse = known new.reverse := (List.filter_reverse ..).symm
  have hknown : (known new.reverse).lookup key =
      if analysisKeys.contains key then new.reverse.lookup key else none :=
    Table.lookup_filter_key analysisKeys.contains new.reverse key
  rw [overlay, Json.lookup_foldl_setMember, hreverse, hknown]
  split <;> simp

/-! ### Saves -/

/-- A save of one section. -/
inductive Save where
  | languageModel (provider model apiKey endpoint : String)
  | embedding (model : String)
  | analysis (settings : Members)

/-- The members of a section that is a table, none of one that is missing. -/
def tableOf (sections : Members) (name : String) : Members :=
  match sections.lookup name with
  | some (.obj members) => members
  | _ => []

namespace Save

def target : Save → String
  | languageModel .. => modelSection
  | embedding _ => embeddingSection
  | analysis _ => analysisSection

/-- The members given to a save. -/
def given : Save → Members
  | languageModel provider model apiKey endpoint => modelMembers provider model apiKey endpoint
  | embedding model => [("model", .str model)]
  | analysis settings => settings

def run (f : Format ρ ω) (home : List String) (t : FileTree) : Save → SavedOf ρ ω
  | languageModel provider model apiKey endpoint =>
      f.saveLanguageModel home t provider model apiKey endpoint
  | embedding model => f.saveEmbedding home t model
  | analysis settings => f.saveAnalysis home t settings

/-- The section after a save: what was given, laid over the old one for the analysis. -/
def saved (sections : Members) : Save → Members
  | analysis settings => overlay (tableOf sections analysisSection) settings
  | s => s.given

/-- The sections after a save. -/
def apply (sections : Members) (s : Save) : Members :=
  Json.setMember sections s.target (.obj (s.saved sections))

private theorem lookup_apply (sections : Members) (s : Save) (name : String) :
    (apply sections s).lookup name =
      if name = s.target then some (.obj (s.saved sections)) else sections.lookup name :=
  Json.lookup_setMember sections s.target name _

private theorem saved_of_target_ne {s : Save} (h : s.target ≠ analysisSection)
    (sections : Members) : s.saved sections = s.given := by
  cases s with
  | languageModel | embedding => rfl
  | analysis => exact absurd rfl h

end Save

/-- Every section is a table. -/
def AllTables (sections : Members) : Prop :=
  ∀ m ∈ sections, ∃ members, m.2 = .obj members

private theorem AllTables.lookup_eq {sections : Members} (h : AllTables sections) (name : String) :
    sections.lookup name = none ∨ sections.lookup name = some (.obj (tableOf sections name)) := by
  cases hname : sections.lookup name with
  | none => exact .inl rfl
  | some j =>
      obtain ⟨before, after, hsections, _⟩ := List.lookup_eq_some_iff.mp hname
      obtain ⟨members, hmembers⟩ := h (name, j) (by rw [hsections]; simp)
      simp only at hmembers
      subst hmembers
      exact .inr (by rw [tableOf, hname])

theorem AllTables.membersOf_eq {sections : Members} (h : AllTables sections) (name : String) :
    (membersOf sections name : Result ρ ω Members) = .ok (tableOf sections name) := by
  rw [membersOf]
  rcases h.lookup_eq name with hname | hname
  · rw [tableOf, hname]
    rfl
  · rw [hname]
    rfl

theorem AllTables.setMember {sections : Members} (h : AllTables sections) (name : String)
    (members : Members) : AllTables (Json.setMember sections name (.obj members)) := by
  intro m hm
  rw [Json.setMember] at hm
  split at hm
  · obtain ⟨old, hold, rfl⟩ := List.mem_map.mp hm
    split
    · exact ⟨members, rfl⟩
    · exact h old hold
  · rcases List.mem_append.mp hm with hm | hm
    · exact h m hm
    · rw [List.mem_singleton.mp hm]
      exact ⟨members, rfl⟩

/-! ### Files -/

/-- A text with plain line ends. -/
def plain (text : String) : String := String.ofList (Text.Utf8.plainNewlines text.toList)

private theorem plain_of_notMem {text : String} (h : '\r' ∉ text.toList) : plain text = text := by
  rw [plain, Text.Utf8.plainNewlines_of_notMem h, String.ofList_toList]

theorem decodeText_ok_iff {bytes : List UInt8} {text : String} :
    FileTree.decodeText bytes = .ok text ↔
      ∃ written : String, bytes = written.toUTF8.toList ∧ text = plain written := by
  constructor
  · intro h
    obtain ⟨written, hwritten, htext⟩ := bind_ok h
    exact ⟨written, Text.Utf8.decode_ok_iff.mp hwritten, (Except.ok.inj htext).symm⟩
  · rintro ⟨written, rfl, rfl⟩
    rw [FileTree.decodeText, Text.Utf8.decode_toUTF8]
    rfl

/-- The file is there and says these sections. -/
def States (f : Format ρ ω) (home : List String) (t : FileTree) (sections : Members) : Prop :=
  ∃ bytes text, t.read (home ++ [fileName]) = .ok bytes ∧
    FileTree.decodeText bytes = .ok text ∧ f.read text = .ok sections

/-- There is no file, and so no section, or the file says these. -/
def Starts (f : Format ρ ω) (home : List String) (t : FileTree) (sections : Members) : Prop :=
  t.holds (home ++ [fileName]) = false ∧ sections = [] ∨ States f home t sections

section Loading

variable {f : Format ρ ω} {home : List String} {t : FileTree} {sections : Members}

theorem States.load_eq (h : States f home t sections) : f.load home t = .ok sections := by
  obtain ⟨bytes, text, hread, htext, hsections⟩ := h
  simp only [Format.load, Format.sectionsOf, hread, htext, hsections]

theorem Starts.load_eq (h : Starts f home t sections) : f.load home t = .ok sections := by
  rcases h with ⟨hnone, rfl⟩ | hstates
  · obtain ⟨e, he⟩ := FileTree.read_of_not_holds hnone
    simp only [Format.load, he]
  · exact hstates.load_eq

end Loading

/-- Sections that can be read again from what is written of them. -/
def ReadsBack (f : Format ρ ω) (sections : Members) : Prop :=
  ∀ text, f.write sections = .ok text → f.read (plain text) = .ok sections

theorem read_toml_ok_iff {text : String} {sections : Members} :
    toml.read text = .ok sections ↔ Toml.read? text = some sections := by
  cases h : Toml.read? text <;> simp [toml, h]

private theorem read_toml_malformed_iff {text : String} :
    toml.read text = .error .malformed ↔ Toml.read? text = none := by
  cases h : Toml.read? text <;> simp [toml, h]

/-- Nothing that is written has line ends that are read as others. -/
theorem readsBack_toml_iff {sections : Members} :
    ReadsBack toml sections ↔
      ∀ text, Toml.render sections = .ok text → Toml.read? text = some sections := by
  refine forall_congr' fun text => forall_congr' fun htext => ?_
  rw [plain_of_notMem (Toml.return_notMem_render htext), read_toml_ok_iff]

instance (sections : Members) : Decidable (ReadsBack toml sections) :=
  match h : Toml.render sections with
  | .error _ => isTrue (by simp [readsBack_toml_iff, h])
  | .ok text =>
      decidable_of_iff (Toml.read? text = some sections) (by simp [readsBack_toml_iff, h])

/-! ### One save -/

section OneSave

variable {f : Format ρ ω} {home : List String} {t t' : FileTree} {sections : Members}

private theorem store_eq (h : f.store home t sections = (.ok true, t')) :
    ∃ (made : FileTree) (text : String), f.write sections = .ok text ∧
      made.write (home ++ [fileName]) text.toUTF8.toList = .ok t' := by
  rw [Format.store] at h
  split at h
  · cases h
  · rename_i made _
    split at h
    · cases h
    · rename_i text htext
      split at h
      · cases h
      · rename_i written hwritten
        cases h
        exact ⟨made, text, htext, hwritten⟩

private theorem states_of_store (hreads : ReadsBack f sections)
    (h : f.store home t sections = (.ok true, t')) : States f home t' sections := by
  obtain ⟨made, text, htext, hwritten⟩ := store_eq h
  have hread := FileTree.read_write hwritten
  have hdecoded := decodeText_ok_iff.mpr ⟨text, rfl, rfl⟩
  exact ⟨text.toUTF8.toList, plain text, hread, hdecoded, hreads text htext⟩

private theorem store_over {bytes : List UInt8} (hread : t.read (home ++ [fileName]) = .ok bytes)
    (sections : Members) :
    (∃ e, f.write sections = .error e ∧
      f.store home t sections = (.error (.unwritable e), t)) ∨
    ∃ out t', f.write sections = .ok out ∧
      t.write (home ++ [fileName]) out.toUTF8.toList = .ok t' ∧
      f.store home t sections = (.ok true, t') := by
  have hmade := FileTree.makeDirectories_of_isDirectory (FileTree.isDirectory_of_read hread)
  rw [Format.store, hmade]
  cases hwrite : f.write sections with
  | error e => exact .inl ⟨e, rfl, rfl⟩
  | ok out =>
      obtain ⟨t', ht'⟩ := FileTree.write_of_read hread out.toUTF8.toList
      simp only [ht']
      exact .inr ⟨out, t', rfl, ht', rfl⟩

/-- A save writes the sections of the file with its own one replaced. -/
theorem Save.run_eq (hload : f.load home t = .ok sections) (htables : AllTables sections)
    (s : Save) : s.run f home t = f.store home t (s.apply sections) := by
  have hsave (name : String) (members : Members) : f.save home t name members =
      f.store home t (Json.setMember sections name (.obj members)) := by
    rw [Format.save, hload]
  cases s with
  | languageModel | embedding => exact hsave _ _
  | analysis settings =>
      have hold : (f.load home t).bind (membersOf · analysisSection) =
          .ok (tableOf sections analysisSection) := by
        rw [hload]
        exact htables.membersOf_eq analysisSection
      rw [Save.run, Format.saveAnalysis, hold]
      exact hsave _ _

theorem Save.run_of_load_error {e : FaultOf ρ ω} (hload : f.load home t = .error e) (s : Save) :
    s.run f home t = (.error e, t) := by
  cases s with
  | languageModel | embedding =>
      simp only [Save.run, Format.saveLanguageModel, Format.saveEmbedding, Format.save, hload]
  | analysis settings =>
      simp only [Save.run, Format.saveAnalysis, hload, Except.bind]

end OneSave

/-! ### Runs of saves -/

/-- The tree after saves that were all possible. -/
def runAll? (f : Format ρ ω) (home : List String) : FileTree → List Save → Option FileTree
  | t, [] => some t
  | t, s :: rest =>
      match s.run f home t with
      | (.ok true, t') => runAll? f home t' rest
      | _ => none

/-- The sections written by each of the saves. -/
def written : Members → List Save → List Members
  | _, [] => []
  | sections, s :: rest => s.apply sections :: written (s.apply sections) rest

private theorem starts_of_runAll? {f : Format ρ ω} {home : List String} {t t' : FileTree}
    {sections : Members} {saves : List Save} (hstart : Starts f home t sections)
    (htables : AllTables sections) (hreads : ∀ c ∈ written sections saves, ReadsBack f c)
    (hrun : runAll? f home t saves = some t') :
    Starts f home t' (saves.foldl Save.apply sections) ∧
      AllTables (saves.foldl Save.apply sections) ∧
      (saves ≠ [] → States f home t' (saves.foldl Save.apply sections)) := by
  induction saves generalizing t sections with
  | nil =>
      rw [← Option.some.inj hrun]
      exact ⟨hstart, htables, fun h => absurd rfl h⟩
  | cons s rest ih =>
      rw [runAll?, s.run_eq hstart.load_eq htables] at hrun
      -- what the first save wrote is where the others start
      split at hrun
      · rename_i t₁ hstore
        have hstates : States f home t₁ (s.apply sections) :=
          states_of_store (hreads _ List.mem_cons_self) hstore
        have hrest : ∀ c ∈ written (s.apply sections) rest, ReadsBack f c :=
          fun c hc => hreads c (List.mem_cons_of_mem _ hc)
        obtain ⟨hstarts, htables', hstates'⟩ := ih (.inr hstates) (htables.setMember _ _) hrest hrun
        refine ⟨hstarts, htables', fun _ => ?_⟩
        cases rest with
        | nil =>
            rw [← Option.some.inj hrun]
            exact hstates
        | cons => exact hstates' (by simp)
      · cases hrun

private theorem exists_runAll? {f : Format ρ ω} {home : List String} {t : FileTree}
    {sections : Members} {saves : List Save} (hstates : States f home t sections)
    (htables : AllTables sections) (hreads : ∀ c ∈ written sections saves, ReadsBack f c)
    (hwrites : ∀ c ∈ written sections saves, (f.write c).toOption.isSome) :
    ∃ t', runAll? f home t saves = some t' := by
  induction saves generalizing t sections with
  | nil => exact ⟨t, rfl⟩
  | cons s rest ih =>
      have hload := hstates.load_eq
      obtain ⟨bytes, _, hread, _⟩ := hstates
      rw [runAll?, s.run_eq hload htables]
      rcases store_over hread (s.apply sections) with ⟨e, he, _⟩ | ⟨out, t₁, _, _, hstore⟩
      · have hsome := hwrites _ List.mem_cons_self
        rw [he] at hsome
        cases hsome
      · rw [hstore]
        exact ih (states_of_store (hreads _ List.mem_cons_self) hstore) (htables.setMember _ _)
          (fun c hc => hreads c (List.mem_cons_of_mem _ hc))
          (fun c hc => hwrites c (List.mem_cons_of_mem _ hc))

/-! ### What the sections are after a run -/

private theorem lookup_apply_congr {c d : Members} {name : String}
    (h : c.lookup name = d.lookup name) (s : Save) :
    (s.apply c).lookup name = (s.apply d).lookup name := by
  rw [Save.lookup_apply, Save.lookup_apply]
  split
  · rename_i hname
    cases s with
    | languageModel | embedding => rfl
    | analysis settings =>
        have htable : tableOf c analysisSection = tableOf d analysisSection := by
          change name = analysisSection at hname
          rw [hname] at h
          simp only [tableOf, h]
        rw [Save.saved, Save.saved, htable]
  · exact h

/-- What a section is after a run depends on the saves of that section only. -/
theorem lookup_foldl_apply_filter {c d : Members} {name : String}
    (h : c.lookup name = d.lookup name) (saves : List Save) :
    (saves.foldl Save.apply c).lookup name =
      ((saves.filter (·.target == name)).foldl Save.apply d).lookup name := by
  induction saves generalizing c d with
  | nil => exact h
  | cons s rest ih =>
      -- the two runs go on from tables that may differ, but not in this section
      by_cases hname : s.target = name
      · rw [List.filter_cons_of_pos (by simpa using hname)]
        exact ih (lookup_apply_congr h s)
      · rw [List.filter_cons_of_neg (by simpa using hname)]
        apply ih
        rw [Save.lookup_apply, if_neg (Ne.symm hname), h]

private theorem lookup_foldl_apply_of_not_saved {sections : Members} {saves : List Save}
    {name : String} (h : ∀ s ∈ saves, s.target ≠ name) :
    (saves.foldl Save.apply sections).lookup name = sections.lookup name := by
  have hnone : saves.filter (·.target == name) = [] :=
    List.filter_eq_nil_iff.mpr fun s hs => by simpa using h s hs
  rw [lookup_foldl_apply_filter rfl saves, hnone]
  rfl

private theorem lookup_foldl_apply_of_table {sections : Members} {saves : List Save} {name : String}
    (h : (∃ members, sections.lookup name = some (.obj members)) ∨ ∃ s ∈ saves, s.target = name) :
    ∃ members, (saves.foldl Save.apply sections).lookup name = some (.obj members) := by
  induction saves generalizing sections with
  | nil =>
      rcases h with h | ⟨s, hs, _⟩
      · exact h
      · cases hs
  | cons s rest ih =>
      apply ih
      by_cases hname : name = s.target
      · exact .inl ⟨_, by rw [Save.lookup_apply, if_pos hname]⟩
      · rw [Save.lookup_apply, if_neg hname]
        refine h.imp_right ?_
        rintro ⟨u, hu, htarget⟩
        rcases List.mem_cons.mp hu with rfl | hu
        · exact absurd htarget.symm hname
        · exact ⟨u, hu, htarget⟩

private theorem lookup_foldl_apply_of_saved {sections : Members} {saves : List Save} {s : Save}
    (h : s ∈ saves) : (saves.foldl Save.apply sections).lookup s.target =
      some (.obj (tableOf (saves.foldl Save.apply sections) s.target)) := by
  obtain ⟨members, hmembers⟩ :=
    lookup_foldl_apply_of_table (.inr ⟨s, h, rfl⟩)
  rw [tableOf, hmembers]

/-- What the last save of a section was given. -/
def lastGiven (saves : List Save) (name : String) : Option Members :=
  ((saves.filter (·.target == name)).getLast?).map Save.given

/-- The settings given to the saves of the analysis, in order. -/
def settingsGiven (saves : List Save) : Members :=
  (saves.filter (·.target == analysisSection)).flatMap Save.given

private theorem tableOf_apply (sections : Members) (s : Save) (name : String) :
    tableOf (s.apply sections) name =
      if name = s.target then s.saved sections else tableOf sections name := by
  simp only [tableOf, Save.lookup_apply]
  by_cases hname : name = s.target
  · rw [if_pos hname, if_pos hname]
  · rw [if_neg hname, if_neg hname]

private theorem lookup_foldl_apply {name : String} (hname : name ≠ analysisSection)
    (sections : Members) (saves : List Save) : (saves.foldl Save.apply sections).lookup name =
      ((lastGiven saves name).map .obj).or (sections.lookup name) := by
  induction saves generalizing sections with
  | nil => rfl
  | cons s rest ih =>
      rw [List.foldl_cons, ih, Save.lookup_apply]
      by_cases htarget : s.target = name
      · have hgiven : s.saved sections = s.given :=
          Save.saved_of_target_ne (htarget ▸ hname) sections
        have hlast : lastGiven (s :: rest) name = (lastGiven rest name).or (some s.given) := by
          rw [lastGiven, List.filter_cons_of_pos (by simpa using htarget), List.getLast?_cons]
          cases hrest : (rest.filter (·.target == name)).getLast? <;> simp [lastGiven, hrest]
        rw [if_pos htarget.symm, hgiven, hlast]
        cases lastGiven rest name <;> rfl
      · have hlast : lastGiven (s :: rest) name = lastGiven rest name := by
          rw [lastGiven, List.filter_cons_of_neg (by simpa using htarget), lastGiven]
        rw [if_neg (Ne.symm htarget), hlast]

private theorem lookup_tableOf_foldl_apply (sections : Members) (saves : List Save) (key : String) :
    (tableOf (saves.foldl Save.apply sections) analysisSection).lookup key =
      if analysisKeys.contains key then
        ((settingsGiven saves).reverse.lookup key).or
          ((tableOf sections analysisSection).lookup key)
      else (tableOf sections analysisSection).lookup key := by
  induction saves generalizing sections with
  | nil => simp [settingsGiven]
  | cons s rest ih =>
      rw [List.foldl_cons, ih, tableOf_apply]
      by_cases htarget : s.target = analysisSection
      · have hgiven : settingsGiven (s :: rest) = s.given ++ settingsGiven rest := by
          rw [settingsGiven, List.filter_cons_of_pos (by simpa using htarget), List.flatMap_cons,
            settingsGiven]
        have hsaved : s.saved sections = overlay (tableOf sections analysisSection) s.given := by
          cases s with
          | languageModel => exact absurd htarget (show modelSection ≠ analysisSection by decide)
          | embedding => exact absurd htarget (show embeddingSection ≠ analysisSection by decide)
          | analysis => rfl
        rw [if_pos htarget.symm, hgiven, hsaved, lookup_overlay, List.reverse_append,
          List.lookup_append]
        split
        · rw [Option.or_assoc]
        · rfl
      · have hgiven : settingsGiven (s :: rest) = settingsGiven rest := by
          rw [settingsGiven, List.filter_cons_of_neg (by simpa using htarget), settingsGiven]
        rw [if_neg (Ne.symm htarget), hgiven]

/-! ### Views -/

theorem AllTables.languageModel_eq {sections : Members} (h : AllTables sections) :
    (languageModel sections : Result ρ ω Members) =
      .ok (if (tableOf sections modelSection).isEmpty then providerDefaults "ollama"
        else tableOf sections modelSection) := by
  rw [languageModel]
  rcases h.lookup_eq modelSection with hname | hname
  · simp only [tableOf, hname]
    rfl
  · rw [hname]
    cases tableOf sections modelSection <;> rfl

theorem AllTables.analysis_eq {sections : Members} (h : AllTables sections) :
    (analysis sections : Result ρ ω Members) =
      .ok (known (tableOf sections analysisSection)) := by
  rw [analysis]
  rcases h.lookup_eq analysisSection with hname | hname
  · rw [tableOf, hname]
    rfl
  · rw [hname]
    rfl

/-! ### Independent sections -/

/-- What a configuration says after saves. -/
structure After (sections : Members) (saves : List Save) (final : Members) : Prop where
  replaced : ∀ name ∈ [modelSection, embeddingSection],
    final.lookup name = ((lastGiven saves name).map .obj).or (sections.lookup name)
  analysis : final.lookup analysisSection =
    if saves.any (·.target == analysisSection) then some (.obj (tableOf final analysisSection))
    else sections.lookup analysisSection
  setting : ∀ key, (tableOf final analysisSection).lookup key =
    if analysisKeys.contains key then
      ((settingsGiven saves).reverse.lookup key).or ((tableOf sections analysisSection).lookup key)
    else (tableOf sections analysisSection).lookup key
  other : ∀ name ∉ [modelSection, embeddingSection, analysisSection],
    final.lookup name = sections.lookup name

private theorem target_mem (s : Save) :
    s.target ∈ [modelSection, embeddingSection, analysisSection] := by
  cases s <;> simp [Save.target]

private theorem after_foldl_apply (sections : Members) (saves : List Save) :
    After sections saves (saves.foldl Save.apply sections) where
  replaced name hname := by
    have hne : name ≠ analysisSection := by
      rintro rfl
      exact absurd hname (by decide)
    exact lookup_foldl_apply hne sections saves
  analysis := by
    split
    · rename_i hany
      obtain ⟨s, hs, htarget⟩ := List.any_eq_true.mp hany
      rw [← beq_iff_eq.mp htarget]
      exact lookup_foldl_apply_of_saved hs
    · rename_i hany
      apply lookup_foldl_apply_of_not_saved
      intro s hs htarget
      exact hany (List.any_eq_true.mpr ⟨s, hs, beq_iff_eq.mpr htarget⟩)
  setting := lookup_tableOf_foldl_apply sections saves
  other name hname := by
    apply lookup_foldl_apply_of_not_saved
    rintro s _ rfl
    exact hname (target_mem s)

/-- Two runs that save each section in the same order. -/
def SameBySection (saves saves' : List Save) : Prop :=
  ∀ name, saves.filter (·.target == name) = saves'.filter (·.target == name)

/-- After saves that were all possible, from no file or from a file of tables, the file says what it
said with the saves laid over it, as long as what was written could be read again. Saves of
different sections can be exchanged, and reading a section gives what the file says of it. -/
theorem sections_after_saves {f : Format ρ ω} {home : List String} {t t' : FileTree}
    {sections : Members} {saves : List Save} (hstart : Starts f home t sections)
    (htables : AllTables sections) (hreads : ∀ c ∈ written sections saves, ReadsBack f c)
    (hrun : runAll? f home t saves = some t') :
    ∃ final, Starts f home t' final ∧ (saves ≠ [] → States f home t' final) ∧
      f.load home t' = .ok final ∧ After sections saves final ∧
      (∀ saves' t'', SameBySection saves saves' → (∀ c ∈ written sections saves', ReadsBack f c) →
        runAll? f home t saves' = some t'' →
        ∃ final', f.load home t'' = .ok final' ∧
          ∀ name, final'.lookup name = final.lookup name) ∧
      (languageModel final : Result ρ ω Members) =
        .ok (if (tableOf final modelSection).isEmpty then providerDefaults "ollama"
          else tableOf final modelSection) ∧
      (embedding final : Result ρ ω Members) = .ok (tableOf final embeddingSection) ∧
      (analysis final : Result ρ ω Members) =
        .ok (known (tableOf final analysisSection)) := by
  obtain ⟨hfinal, hfinalTables, hstates⟩ := starts_of_runAll? hstart htables hreads hrun
  refine ⟨saves.foldl Save.apply sections, hfinal, hstates, hfinal.load_eq,
    after_foldl_apply sections saves, ?_, hfinalTables.languageModel_eq,
    hfinalTables.membersOf_eq embeddingSection, hfinalTables.analysis_eq⟩
  intro saves' t'' hsame hreads' hrun'
  obtain ⟨hfinal', _, _⟩ := starts_of_runAll? hstart htables hreads' hrun'
  refine ⟨saves'.foldl Save.apply sections, hfinal'.load_eq, fun name => ?_⟩
  have hown (all : List Save) : (all.foldl Save.apply sections).lookup name =
      ((all.filter (·.target == name)).foldl Save.apply sections).lookup name :=
    lookup_foldl_apply_filter rfl all
  rw [hown saves, hown saves', hsame name]

/-- A home directory with a configuration. -/
def homeWith (text : String) : FileTree :=
  ⟨[(["home"], .directory), (["home", fileName], .file text.toUTF8.toList)]⟩

private theorem read_homeWith (text : String) :
    (homeWith text).read (["home"] ++ [fileName]) = .ok text.toUTF8.toList := rfl

def mixedSections : Members :=
  [("analysis", .obj [("batch_size", .int 2), ("note", .str "x")]),
    ("other", .obj [("on", .bool true)])]

def mixedText : String := "[analysis]\nbatch_size = 2\nnote = \"x\"\n\n[other]\non = true\n"

def mixedSaves : List Save :=
  [.analysis [("batch_size", .int 4), ("colour", .str "red")], .embedding "minilm",
    .analysis [("vector_top_k", .int 5)]]

theorem mixed_saves_keep_other_sections :
    ∃ t' final, runAll? toml ["home"] (homeWith mixedText) mixedSaves = some t' ∧
      load ["home"] t' = .ok final ∧ final.lookup "other" = some (.obj [("on", .bool true)]) ∧
      (tableOf final analysisSection).lookup "batch_size" = some (.int 4) ∧
      (tableOf final analysisSection).lookup "note" = some (.str "x") ∧
      (tableOf final analysisSection).lookup "colour" = none := by
  have hread : toml.read mixedText = .ok mixedSections := read_toml_ok_iff.mpr (by decide +kernel)
  have hstates : States toml ["home"] (homeWith mixedText) mixedSections :=
    ⟨_, mixedText, read_homeWith mixedText, Text.Utf8.decodeText_toUTF8 (by decide +kernel), hread⟩
  have htables : AllTables mixedSections := by simp [AllTables, mixedSections]
  have hreads : ∀ c ∈ written mixedSections mixedSaves, ReadsBack toml c := by decide +kernel
  have hwrites : ∀ c ∈ written mixedSections mixedSaves, (toml.write c).toOption.isSome := by
    decide +kernel
  obtain ⟨t', hrun⟩ := exists_runAll? hstates htables hreads hwrites
  obtain ⟨final, _, _, hload, hafter, _⟩ := sections_after_saves (.inr hstates) htables hreads hrun
  exact ⟨t', final, hrun, hload, (hafter.other "other" (by decide)).trans (by decide +kernel),
    (hafter.setting "batch_size").trans (by decide +kernel),
    (hafter.setting "note").trans (by decide +kernel),
    (hafter.setting "colour").trans (by decide +kernel)⟩

/-! ### Files that cannot be parsed -/

/-- In any notation, a save over a file that is no text, or at which the reader fails in its own
way, fails and changes nothing. A save over a text that breaks the rules replaces the whole file by
its own section, unless that cannot be written; then it fails and changes nothing. -/
theorem unparsed_file_is_replaced (f : Format ρ ω) {home : List String} {t : FileTree}
    {bytes : List UInt8} (hread : t.read (home ++ [fileName]) = .ok bytes) (s : Save) :
    (∀ e, FileTree.decodeText bytes = .error e → s.run f home t = (.error (.undecodable e), t)) ∧
    ∀ text, FileTree.decodeText bytes = .ok text →
      (∀ e, f.read text = .error (.failed e) → s.run f home t = (.error (.unreadable e), t)) ∧
      (f.read text = .error .malformed →
        (∃ e, f.write [(s.target, .obj (s.saved []))] = .error e ∧
          s.run f home t = (.error (.unwritable e), t)) ∨
        ∃ out t', f.write [(s.target, .obj (s.saved []))] = .ok out ∧
          s.run f home t = (.ok true, t') ∧
          t'.read (home ++ [fileName]) = .ok out.toUTF8.toList ∧
          ∀ place, place ≠ Path.destination (home ++ [fileName]) →
            t'.node? place = t.node? place) := by
  refine ⟨fun e he => ?_, fun text htext => ⟨fun e he => ?_, fun hmalformed => ?_⟩⟩
  · exact s.run_of_load_error (by simp only [Format.load, hread, he])
  · exact s.run_of_load_error (by simp only [Format.load, Format.sectionsOf, hread, htext, he])
  · -- the text counts as empty, and the save starts from that
    have hload : f.load home t = .ok [] := by
      simp only [Format.load, Format.sectionsOf, hread, htext, hmalformed]
    have hrun : s.run f home t = f.store home t [(s.target, .obj (s.saved []))] :=
      s.run_eq hload (by simp [AllTables])
    rw [hrun]
    refine (store_over hread _).imp_right ?_
    rintro ⟨out, t', hout, hwrite, hdone⟩
    exact ⟨out, t', hout, hdone, FileTree.read_write hwrite,
      fun place hplace => FileTree.node?_write_of_ne hwrite hplace⟩

def embeddingText : String := "[embeddings]\nmodel = \"minilm\"\n"

/-- A section that is well formed, before a header that is not closed. -/
def unclosedText : String := embeddingText ++ "\n[llm\n"

theorem saved_setting_replaces_unclosed_file :
    (homeWith unclosedText).read (["home"] ++ [fileName]) = .ok unclosedText.toUTF8.toList ∧
    toml.read unclosedText = .error .malformed ∧
    ∃ t', (Save.analysis [("batch_size", .int 4)]).run toml ["home"] (homeWith unclosedText) =
        (.ok true, t') ∧
      t'.read (["home"] ++ [fileName]) = .ok "[analysis]\nbatch_size = 4\n".toUTF8.toList := by
  have hread := read_homeWith unclosedText
  have hdecoded : FileTree.decodeText unclosedText.toUTF8.toList = .ok unclosedText :=
    Text.Utf8.decodeText_toUTF8 (by decide +kernel)
  have hnone : toml.read unclosedText = .error .malformed :=
    read_toml_malformed_iff.mpr (by decide +kernel)
  have hrender : (Toml.render [("analysis", .obj [("batch_size", .int 4)])]).toOption =
      some "[analysis]\nbatch_size = 4\n" := by decide +kernel
  refine ⟨hread, hnone, ?_⟩
  obtain ⟨_, h⟩ := unparsed_file_is_replaced toml hread (.analysis [("batch_size", .int 4)])
  rcases (h unclosedText hdecoded).2 hnone with ⟨e, he, _⟩ | ⟨out, t', hout, hrun, hnew, _⟩
  · change Toml.render [("analysis", .obj [("batch_size", .int 4)])] = .error e at he
    rw [he] at hrender
    cases hrender
  · change Toml.render [("analysis", .obj [("batch_size", .int 4)])] = .ok out at hout
    rw [hout] at hrender
    exact ⟨t', hrun, Option.some.inj hrender ▸ hnew⟩

theorem unclosed_file_loses_embedding :
    (Toml.read? embeddingText).map (tableOf · embeddingSection) = some [("model", .str "minilm")] ∧
    Toml.read? unclosedText = none ∧
    (saveAnalysis ["home"] (homeWith unclosedText) [("batch_size", .int 4)]).1.toOption =
      some true ∧
    (load ["home"]
        (saveAnalysis ["home"] (homeWith unclosedText) [("batch_size", .int 4)]).2).toOption =
      some [("analysis", .obj [("batch_size", .int 4)])] := by
  decide +kernel

end Config

end PullReview
