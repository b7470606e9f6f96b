import PullReview.Breaking
import PullReview.Proofs.Table.Order

/-!
# Breaking changes are found exactly

A changed function has one record for each of the three checks that it fails, in the order of the
checks. A name is reported as removed, once, if a changed file had a function of that name and no
changed file declares the name any more. So a symbol that a changed file declares is never
reported as removed, whatever else has its name.
-/

namespace PullReview.Breaking

/-- Two texts that are both there and not empty, and of which `p` holds. -/
def BothCarry (p : String → String → Prop) : Option String → Option String → Prop
  | some a, some b => a ≠ "" ∧ b ≠ "" ∧ p a b
  | _, _ => False

instance (p : String → String → Prop) [∀ a b, Decidable (p a b)] :
    ∀ old new, Decidable (BothCarry p old new)
  | some a, some b => inferInstanceAs (Decidable (a ≠ "" ∧ b ≠ "" ∧ p a b))
  | some _, none => isFalse id
  | none, _ => isFalse id

/-- Whether a symbol differs from what it was in a way that can break its callers. -/
def Differs (old new : Symbol) : ChangeKind → Prop
  | .signature => BothCarry (fun a b => a ≠ b) old.signature new.signature
  | .visibility =>
      BothCarry (fun a b => visibilityRank b < visibilityRank a) old.visibility new.visibility
  | .returnType => BothCarry (fun a b => a ≠ b) old.returnType new.returnType
  | _ => False

instance (old new : Symbol) : DecidablePred (Differs old new)
  | .signature => inferInstanceAs (Decidable (BothCarry _ _ _))
  | .visibility => inferInstanceAs (Decidable (BothCarry _ _ _))
  | .returnType => inferInstanceAs (Decidable (BothCarry _ _ _))
  | .removed => isFalse id
  | .other _ => isFalse id

/-- Whether a function or method differs so from the indexed symbol of its name. -/
def Breaks (ix : Index) (new : Symbol) (kind : ChangeKind) : Prop :=
  new.kind ∈ ["method", "function"] ∧ ∃ old ∈ ix.symbol? new.name, Differs old new kind

instance (ix : Index) (new : Symbol) : DecidablePred (Breaks ix new) :=
  fun _ => inferInstanceAs (Decidable (_ ∧ _))

/-- The checks in the order they are made. -/
def checks : List ChangeKind := [.signature, .visibility, .returnType]

/-- A changed file had a function or method of the name, and no changed file declares the name any
more. -/
structure IsRemoved (ix : Index) (changed : List (String × List Symbol)) (name : String) :
    Prop where
  was : ∃ f ∈ changed, ∃ s ∈ ix.fileSymbols f.1,
    s.kind ∈ ["method", "function"] ∧ s.name = name
  gone : ∀ f ∈ changed, ∀ s ∈ f.2, s.name ≠ name

/-! ### The checks of one symbol -/

/-- What a record is about. -/
def subject (r : BreakingChange) : Symbol × ChangeKind := (r.symbol, r.kind)

/-- A check compares two texts that are both there and not empty, or it gives nothing. -/
def check (f : String → String → List BreakingChange) (old new : Option String) :
    List BreakingChange :=
  match present old, present new with
  | some a, some b => f a b
  | _, _ => []

private theorem check_cases (f : String → String → List BreakingChange) (old new : Option String) :
    (∃ a b, old = some a ∧ new = some b ∧ a ≠ "" ∧ b ≠ "" ∧ check f old new = f a b) ∨
      ((∀ p, ¬ BothCarry p old new) ∧ check f old new = []) := by
  have hnone : present none = none := rfl
  have hsome : ∀ t : String, present (some t) = if t = "" then none else some t := by
    intro t
    by_cases ht : t = "" <;> simp [present, ht]
  rcases old with _ | a
  · exact Or.inr ⟨fun p => id, rfl⟩
  · rcases new with _ | b
    · refine Or.inr ⟨fun p => id, ?_⟩
      by_cases ha : a = "" <;> simp [check, hnone, hsome, ha]
    · by_cases ha : a = ""
      · exact Or.inr ⟨fun p h => h.1 ha, by simp [check, hsome, ha]⟩
      · by_cases hb : b = ""
        · exact Or.inr ⟨fun p h => h.2.1 hb, by simp [check, hsome, ha, hb]⟩
        · exact Or.inl ⟨a, b, rfl, rfl, ha, hb, by simp [check, hsome, ha, hb]⟩

private theorem map_subject_check {p : String → String → Prop} [∀ a b, Decidable (p a b)]
    {f : String → String → List BreakingChange} {s : Symbol} {kind : ChangeKind}
    (hf : ∀ a b, (f a b).map subject = if p a b then [(s, kind)] else [])
    (old new : Option String) :
    (check f old new).map subject = if BothCarry p old new then [(s, kind)] else [] := by
  rcases check_cases f old new with ⟨a, b, rfl, rfl, ha, hb, hcheck⟩ | ⟨hnot, hcheck⟩
  · rw [hcheck, hf]
    simp [BothCarry, ha, hb]
  · rw [hcheck, if_neg (hnot p), List.map_nil]

private theorem map_subject_checks (ix : Index) (old new : Symbol) :
    (signatureChange ix old new ++ visibilityChange ix old new ++ returnChange ix old new).map
        subject = (checks.filter (Differs old new)).map (new, ·) := by
  have hsignature : (signatureChange ix old new).map subject =
      if Differs old new .signature then [(new, .signature)] else [] := by
    apply map_subject_check
    intro a b
    by_cases hab : a = b <;> simp [hab, subject, record]
  have hvisibility : (visibilityChange ix old new).map subject =
      if Differs old new .visibility then [(new, .visibility)] else [] := by
    apply map_subject_check
    intro a b
    by_cases hab : visibilityRank b < visibilityRank a <;> simp [isReduced, hab, subject, record]
  have hreturn : (returnChange ix old new).map subject =
      if Differs old new .returnType then [(new, .returnType)] else [] := by
    apply map_subject_check
    intro a b
    by_cases hab : a = b <;> simp [hab, subject, record]
  rw [List.map_append, List.map_append, hsignature, hvisibility, hreturn]
  simp only [checks, List.filter_cons, List.filter_nil, decide_eq_true_eq]
  split <;> split <;> split <;> rfl

theorem map_subject_symbolChanges (ix : Index) (new : Symbol) :
    (symbolChanges ix new).map subject = (checks.filter (Breaks ix new)).map (new, ·) := by
  have hcallable : new.isCallable = true ↔ new.kind ∈ ["method", "function"] := by
    simp [Symbol.isCallable]
  rw [symbolChanges]
  by_cases hkind : new.isCallable = true
  · rw [if_pos hkind]
    cases hold : ix.symbol? new.name with
    | some old =>
        rw [map_subject_checks]
        congr 1
        apply List.filter_congr
        intro kind _
        simp [Breaks, hold, hcallable.mp hkind]
    | none => simp [Breaks, hold]
  · rw [if_neg hkind]
    have hother : ∀ kind, ¬ Breaks ix new kind := fun kind h => hkind (hcallable.mpr h.1)
    simp [hother]

/-! ### Removals -/

section

variable (ix : Index) (changed : List (String × List Symbol))

/-- The indexed functions and methods of the changed files whose names no changed file declares. -/
def goneSymbols : List Symbol :=
  (changed.flatMap fun f => ix.fileSymbols f.1).filter fun s =>
    s.isCallable && !(changed.flatMap fun f => f.2.map (·.name)).contains s.name

/-- Adds a symbol whose name is not there yet. -/
def addNamed (kept : List Symbol) (s : Symbol) : List Symbol :=
  if kept.any (·.name == s.name) then kept else kept ++ [s]

private theorem removedSymbols_eq :
    removedSymbols ix changed = (goneSymbols ix changed).foldl addNamed [] :=
  rfl

private theorem map_name_addNamed (kept : List Symbol) (s : Symbol) :
    (addNamed kept s).map (·.name) = addNew (kept.map (·.name)) s.name := by
  have hany : kept.any (·.name == s.name) = true ↔ s.name ∈ kept.map (·.name) := by
    simp [List.any_eq_true, List.mem_map]
  rw [addNamed, addNew]
  by_cases hs : s.name ∈ kept.map (·.name)
  · rw [if_pos hs, if_pos (hany.mpr hs)]
  · rw [if_neg hs, if_neg fun h => hs (hany.mp h), List.map_append, List.map_singleton]

private theorem foldl_addNamed (kept more : List Symbol) :
    (more.foldl addNamed kept).map (·.name) =
        (more.map (·.name)).foldl addNew (kept.map (·.name)) ∧
      ∃ added, more.foldl addNamed kept = kept ++ added ∧ added.Sublist more := by
  induction more generalizing kept with
  | nil => exact ⟨rfl, [], by simp, List.Sublist.refl _⟩
  | cons s more ih =>
      obtain ⟨hnames, added, hadded, hsub⟩ := ih (addNamed kept s)
      rw [List.foldl_cons, List.map_cons, List.foldl_cons, ← map_name_addNamed]
      refine ⟨hnames, ?_⟩
      by_cases hs : kept.any (·.name == s.name) = true
      · refine ⟨added, ?_, hsub.cons s⟩
        rw [hadded, addNamed, if_pos hs]
      · refine ⟨s :: added, ?_, hsub.cons_cons s⟩
        rw [hadded, addNamed, if_neg hs, List.append_assoc, List.singleton_append]

/-- The names of the removed symbols are the names that are gone, each at its first place. -/
theorem removedSymbols_names :
    IsFirstOccurrences ((goneSymbols ix changed).map (·.name))
      ((removedSymbols ix changed).map (·.name)) := by
  rw [removedSymbols_eq, (foldl_addNamed [] _).1]
  exact IsFirstOccurrences.empty.foldl_addNew _

private theorem removedSymbols_sublist :
    (removedSymbols ix changed).Sublist (changed.flatMap fun f => ix.fileSymbols f.1) := by
  obtain ⟨added, hadded, hsub⟩ := (foldl_addNamed [] (goneSymbols ix changed)).2
  rw [removedSymbols_eq, hadded, List.nil_append]
  exact hsub.trans List.filter_sublist

private theorem isRemoved_iff (name : String) :
    name ∈ (removedSymbols ix changed).map (·.name) ↔ IsRemoved ix changed name := by
  rw [(removedSymbols_names ix changed).mem_iff, List.mem_map]
  constructor
  · rintro ⟨s, hs, rfl⟩
    obtain ⟨hindexed, hs⟩ := List.mem_filter.mp hs
    obtain ⟨f, hf, hs'⟩ := List.mem_flatMap.mp hindexed
    simp only [Bool.and_eq_true, Bool.not_eq_true', List.contains_eq_mem, decide_eq_false_iff_not]
      at hs
    refine ⟨⟨f, hf, s, hs', by simpa [Symbol.isCallable] using hs.1, rfl⟩, ?_⟩
    intro g hg t ht heq
    exact hs.2 (List.mem_flatMap.mpr ⟨g, hg, List.mem_map.mpr ⟨t, ht, heq⟩⟩)
  · rintro ⟨⟨f, hf, s, hs, hkind, rfl⟩, hgone⟩
    refine ⟨s, List.mem_filter.mpr ⟨List.mem_flatMap.mpr ⟨f, hf, hs⟩, ?_⟩, rfl⟩
    simp only [Bool.and_eq_true, Bool.not_eq_true', List.contains_eq_mem, decide_eq_false_iff_not]
    refine ⟨by simpa [Symbol.isCallable] using hkind, fun hmem => ?_⟩
    obtain ⟨g, hg, hname⟩ := List.mem_flatMap.mp hmem
    obtain ⟨t, ht, heq⟩ := List.mem_map.mp hname
    exact hgone g hg t ht heq

end

/-! ### Records -/

/-- The calls that a record lists are all calls of its symbol's name. -/
structure IsRecord (ix : Index) (r : BreakingChange) : Prop where
  callSites : r.callSites = ix.calls.filter fun e => e.callee = r.symbol.name
  files : IsFirstOccurrences (r.callSites.map (·.file)) r.impactedFiles
  severity : r.severity = .high ↔ r.callSites ≠ [] ∨ r.kind = .returnType

private theorem record_isRecord (ix : Index) (s : Symbol) (kind : ChangeKind)
    (old new : Option String) (message : String) :
    IsRecord ix (record ix s kind old new message) where
  callSites := rfl
  files := distinct_isFirstOccurrences _
  severity := by
    rw [record]
    by_cases hcalled : ix.callers s.name = []
    · by_cases hkind : kind = .returnType <;> simp [hcalled, hkind]
    · simp [hcalled]

private theorem isRecord_of_mem_check {ix : Index} {f : String → String → List BreakingChange}
    (hf : ∀ a b, ∀ r ∈ f a b, IsRecord ix r) {old new : Option String} {r : BreakingChange}
    (h : r ∈ check f old new) : IsRecord ix r := by
  rcases check_cases f old new with ⟨a, b, -, -, -, -, hcheck⟩ | ⟨-, hcheck⟩
  · exact hf a b r (hcheck ▸ h)
  · simp [hcheck] at h

private theorem isRecord_of_mem_symbolChanges {ix : Index} {s : Symbol} {r : BreakingChange}
    (h : r ∈ symbolChanges ix s) : IsRecord ix r := by
  have hrecord : ∀ (c : Bool) (r' : BreakingChange), IsRecord ix r' →
      (∀ r ∈ (if c then [] else [r']), IsRecord ix r) ∧
        ∀ r ∈ (if c then [r'] else []), IsRecord ix r := by
    intro c r' hr'
    cases c <;> simp [hr']
  rw [symbolChanges] at h
  split at h
  · split at h
    · simp only [List.mem_append] at h
      rcases h with (h | h) | h
      · exact isRecord_of_mem_check (fun a b => (hrecord _ _ (record_isRecord ..)).1) h
      · exact isRecord_of_mem_check (fun a b => (hrecord _ _ (record_isRecord ..)).2) h
      · exact isRecord_of_mem_check (fun a b => (hrecord _ _ (record_isRecord ..)).1) h
    · cases h
  · cases h

/-! ### Detection -/

section

variable {ix : Index} {changed : List (String × List Symbol)}

private theorem subject_of_mem_symbolChanges {s : Symbol} {r : BreakingChange}
    (h : r ∈ symbolChanges ix s) : r.symbol = s ∧ r.kind ≠ .removed := by
  have hsubject : subject r ∈ (checks.filter (Breaks ix s)).map (s, ·) := by
    rw [← map_subject_symbolChanges]
    exact List.mem_map_of_mem h
  obtain ⟨kind, hkind, heq⟩ := List.mem_map.mp hsubject
  have hcheck : kind ∈ checks := (List.mem_filter.mp hkind).1
  obtain ⟨rfl, rfl⟩ := Prod.mk.inj heq
  refine ⟨rfl, fun hremoved => ?_⟩
  simp [hremoved, checks] at hcheck

private theorem filter_changes (symbols : List Symbol) :
    (detect ix symbols changed).filter (·.kind ≠ .removed) =
      symbols.flatMap (symbolChanges ix) := by
  have hkept : (symbols.flatMap (symbolChanges ix)).filter (·.kind ≠ .removed) =
      symbols.flatMap (symbolChanges ix) := by
    rw [List.filter_eq_self]
    intro r hr
    obtain ⟨s, -, hr⟩ := List.mem_flatMap.mp hr
    exact decide_eq_true (subject_of_mem_symbolChanges hr).2
  have hdropped : ((removedSymbols ix changed).map (removal ix)).filter (·.kind ≠ .removed) =
      [] := by
    rw [List.filter_map, List.map_eq_nil_iff, List.filter_eq_nil_iff]
    intro s _
    simp [removal, record]
  rw [detect, List.filter_append, hkept, hdropped, List.append_nil]

private theorem filter_removals (symbols : List Symbol) :
    (detect ix symbols changed).filter (·.kind = .removed) =
      (removedSymbols ix changed).map (removal ix) := by
  have hdropped : (symbols.flatMap (symbolChanges ix)).filter (·.kind = .removed) = [] := by
    rw [List.filter_eq_nil_iff]
    intro r hr
    obtain ⟨s, -, hr⟩ := List.mem_flatMap.mp hr
    simpa using (subject_of_mem_symbolChanges hr).2
  have hkept : ((removedSymbols ix changed).map (removal ix)).filter (·.kind = .removed) =
      (removedSymbols ix changed).map (removal ix) := by
    rw [List.filter_eq_self]
    intro r hr
    obtain ⟨s, -, rfl⟩ := List.mem_map.mp hr
    rfl
  rw [detect, List.filter_append, hkept, hdropped, List.nil_append]

end

/-- What a list of records says about changed files and the changed symbols among their symbols. -/
structure Reports (ix : Index) (symbols : List Symbol) (changed : List (String × List Symbol))
    (rs : List BreakingChange) : Prop where
  ordered : rs = rs.filter (·.kind ≠ .removed) ++ rs.filter (·.kind = .removed)
  changes : (rs.filter (·.kind ≠ .removed)).map subject =
    symbols.flatMap fun s => (checks.filter (Breaks ix s)).map (s, ·)
  removed_iff : ∀ name, (∃ r ∈ rs, r.kind = .removed ∧ r.symbol.name = name) ↔
    IsRemoved ix changed name
  removed_once : ((rs.filter (·.kind = .removed)).map (·.symbol.name)).Nodup
  removed_indexed : ((rs.filter (·.kind = .removed)).map (·.symbol)).Sublist
    (changed.flatMap fun f => ix.fileSymbols f.1)
  disjoint : ∀ r ∈ rs, ∀ r' ∈ rs, r.kind = .removed → r'.kind ≠ .removed →
    r.symbol.name ≠ r'.symbol.name
  records : ∀ r ∈ rs, IsRecord ix r

/-- The records of a review are exact, as long as the symbols that changed are symbols of the
changed files. -/
theorem detect_reports (ix : Index) (symbols : List Symbol)
    (changed : List (String × List Symbol)) (h : ∀ s ∈ symbols, ∃ f ∈ changed, s ∈ f.2) :
    Reports ix symbols changed (detect ix symbols changed) := by
  have hsymbols : ((removedSymbols ix changed).map (removal ix)).map (·.symbol) =
      removedSymbols ix changed := by
    rw [List.map_map]
    exact List.map_id'' (fun _ => rfl) _
  have hnames : ((removedSymbols ix changed).map (removal ix)).map (·.symbol.name) =
      (removedSymbols ix changed).map (·.name) := by
    rw [List.map_map]
    rfl
  have hremoved : ∀ name,
      (∃ r ∈ detect ix symbols changed, r.kind = .removed ∧ r.symbol.name = name) ↔
        IsRemoved ix changed name := by
    intro name
    rw [← isRemoved_iff, ← hnames, ← filter_removals symbols, List.mem_map]
    simp only [List.mem_filter, decide_eq_true_eq, and_assoc]
  refine ⟨?_, ?_, hremoved, ?_, ?_, ?_, ?_⟩
  · rw [filter_changes, filter_removals, detect]
  · rw [filter_changes, List.map_flatMap]
    simp only [map_subject_symbolChanges]
  · rw [filter_removals, hnames]
    exact (removedSymbols_names ix changed).nodup
  · rw [filter_removals, hsymbols]
    exact removedSymbols_sublist ix changed
  · -- a changed symbol is declared in a changed file, so its name is not gone
    intro r hr r' hr' hkind hkind' hname
    have hgone := ((hremoved r.symbol.name).mp ⟨r, hr, hkind, rfl⟩).gone
    have hchange : r' ∈ (detect ix symbols changed).filter (·.kind ≠ .removed) :=
      List.mem_filter.mpr ⟨hr', decide_eq_true hkind'⟩
    rw [filter_changes] at hchange
    obtain ⟨s, hs, hr'⟩ := List.mem_flatMap.mp hchange
    obtain ⟨f, hf, hsf⟩ := h s hs
    apply hgone f hf s hsf
    rw [hname, (subject_of_mem_symbolChanges hr').1]
  · intro r hr
    rcases List.mem_append.mp hr with hr | hr
    · obtain ⟨s, -, hr⟩ := List.mem_flatMap.mp hr
      exact isRecord_of_mem_symbolChanges hr
    · obtain ⟨s, -, rfl⟩ := List.mem_map.mp hr
      exact record_isRecord ..

/-! ### A shop -/

def pay : Symbol where
  name := "pay"
  kind := "function"
  file := "core.py"
  startLine := 1
  endLine := 2
  signature := some "pay(x)"
  returnType := some "int"
  visibility := some "public"

def payNow : Symbol :=
  { pay with
    signature := some "pay(x, y)"
    returnType := some "str"
    visibility := some "private" }

def charge : Symbol := { pay with name := "charge", signature := some "charge()" }

def audit : Symbol := { pay with name := "audit", kind := "method" }

/-- `pay` is called from two files; `audit` is in two files and never called. -/
def shop : Index :=
  ((({} : Index).add "core.py" [pay, charge, audit] []).add "old.py" [audit] []).add "web.py" []
    [⟨"order", "pay", "web.py", 3⟩, ⟨"order", "pay", "core.py", 9⟩, ⟨"refund", "pay", "web.py", 7⟩]

/-- `charge` moves to the other file, and `audit` is gone from both. -/
def shopChanges : List (String × List Symbol) := [("core.py", [payNow]), ("old.py", [charge])]

theorem shop_reports :
    (∀ s ∈ [payNow, charge], ∃ f ∈ shopChanges, s ∈ f.2) ∧
      (detect shop [payNow, charge] shopChanges).map subject =
        [(payNow, .signature), (payNow, .visibility), (payNow, .returnType), (audit, .removed)] ∧
      Reports shop [payNow, charge] shopChanges (detect shop [payNow, charge] shopChanges) :=
  ⟨by decide, by decide, detect_reports shop [payNow, charge] shopChanges (by decide)⟩

end PullReview.Breaking
