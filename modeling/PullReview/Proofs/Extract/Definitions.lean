import PullReview.Proofs.Extract.Alike

/-!
# Definitions that the two extractors find

Where both dialects have the same definitions and these are plainly written, the tolerant extractor
finds what the strict one finds and in the same order, except for the definitions inside a compound
statement, which it never enters.
-/

namespace PullReview.Extract

open Python

/-! ### Sources that both dialects read alike -/

/-- Both dialects have a tree for the source, and the definitions that stand directly in a module, a
class or a function are the same in the two, and so are the targets in the module. -/
def sameTrees (content : String) : Bool :=
  match parseModule .strict content, parseModule .tolerant content with
  | some body, some body' => sameModule body body'
  | _, _ => false

/-- The definitions that stand directly in a module, a class or a function, and the constants of the
module, are plainly written. -/
def plainTree (content : String) : Bool := (parseModule .strict content).any plainModule

/-! ### Definitions in compound statements -/

mutual

def definitions : Stmt → Nat
  | .simple _ | .assign _ _ _ | .annotate _ _ _ _ => 0
  | .compound clauses => definitionsInClauses clauses
  | .function _ body | .class _ body => definitionsIn body + 1

def definitionsIn : List Stmt → Nat
  | [] => 0
  | s :: rest => definitions s + definitionsIn rest

def definitionsInClauses : List Clause → Nat
  | [] => 0
  | .mk _ body :: rest => definitionsIn body + definitionsInClauses rest

end

mutual

/-- The number of definitions with a compound statement around them. -/
def hidden : Stmt → Nat
  | .simple _ | .assign _ _ _ | .annotate _ _ _ _ => 0
  | .compound clauses => definitionsInClauses clauses
  | .function _ body | .class _ body => hiddenIn body

def hiddenIn : List Stmt → Nat
  | [] => 0
  | s :: rest => hidden s + hiddenIn rest

end

def hiddenDefinitions (content : String) : Nat :=
  ((parseModule .strict content).map hiddenIn).getD 0

/-! ### Lists of symbols -/

/-- The outlines of `few` are among those of `many`, in order, and `n` are missing. -/
structure Lacks (few many : List Symbol) (n : Nat) : Prop where
  sublist : (few.map outline).Sublist (many.map outline)
  length_eq : many.length = few.length + n

namespace Lacks

theorem none {few many : List Symbol} (h : many.map outline = few.map outline) :
    Lacks few many 0 := by
  refine ⟨h ▸ .refl _, ?_⟩
  simpa using congrArg List.length h

theorem append {few many few' many' : List Symbol} {n m : Nat} (h : Lacks few many n)
    (h' : Lacks few' many' m) : Lacks (few ++ few') (many ++ many') (n + m) := by
  refine ⟨?_, ?_⟩
  · rw [List.map_append, List.map_append]
    exact h.sublist.append h'.sublist
  · rw [List.length_append, List.length_append, h.length_eq, h'.length_eq]
    omega

theorem cons {few many : List Symbol} {n : Nat} {a b : Symbol} (hab : outline b = outline a)
    (h : Lacks few many n) : Lacks (a :: few) (b :: many) n := by
  have hone : Lacks [a] [b] 0 := none (by simp [hab])
  have hboth := hone.append h
  rwa [Nat.zero_add] at hboth

private theorem eq_iff {few many : List Symbol} {n : Nat} (h : Lacks few many n) :
    many.map outline = few.map outline ↔ n = 0 := by
  have hlen := h.length_eq
  refine ⟨fun heq => ?_, fun hn => ?_⟩
  · have := congrArg List.length heq
    simp only [List.length_map] at this
    omega
  · refine (h.sublist.eq_of_length ?_).symm
    simp only [List.length_map]
    omega

end Lacks

/-! ### What the extractors find -/

private theorem map₂_ok {α β γ : Type} {x : Except Fault α} {y : Except Fault β} {f : α → β → γ}
    {r : γ} (h : (do return f (← x) (← y)) = Except.ok r) :
    ∃ a b, x = .ok a ∧ y = .ok b ∧ r = f a b := by
  obtain ⟨a, ha, h⟩ := bind_ok h
  obtain ⟨b, hb, h⟩ := bind_ok h
  exact ⟨a, b, ha, hb, (Except.ok.inj h).symm⟩

mutual

private theorem strictStmt_length {text : Text} {inClass : Bool} {found : List Symbol} :
    ∀ s : Stmt, strictStmt text inClass s = .ok found → found.length = definitions s
  | .simple _, h | .assign _ _ _, h | .annotate _ _ _ _, h => by
      rw [strictStmt] at h
      rw [← Except.ok.inj h]
      rfl
  | .compound clauses, h => by
      rw [strictStmt] at h
      exact strictClauses_length clauses h
  | .function head body, h => by
      rw [strictStmt] at h
      obtain ⟨f, inner, _, hinner, rfl⟩ := map₂_ok h
      rw [List.length_cons, strictBody_length body hinner, definitions]
  | .class head body, h => by
      rw [strictStmt] at h
      obtain ⟨c, inner, _, hinner, rfl⟩ := map₂_ok h
      rw [List.length_cons, strictBody_length body hinner, definitions]

private theorem strictBody_length {text : Text} {inClass : Bool} {found : List Symbol} :
    ∀ body : List Stmt, strictBody text inClass body = .ok found →
      found.length = definitionsIn body
  | [], h => by
      rw [strictBody] at h
      rw [← Except.ok.inj h]
      rfl
  | s :: rest, h => by
      rw [strictBody] at h
      obtain ⟨here, more, hhere, hmore, rfl⟩ := map₂_ok h
      rw [List.length_append, strictStmt_length s hhere, strictBody_length rest hmore,
        definitionsIn]

private theorem strictClauses_length {text : Text} {inClass : Bool} {found : List Symbol} :
    ∀ clauses : List Clause, strictClauses text inClass clauses = .ok found →
      found.length = definitionsInClauses clauses
  | [], h => by
      rw [strictClauses] at h
      rw [← Except.ok.inj h]
      rfl
  | .mk _ body :: rest, h => by
      rw [strictClauses] at h
      obtain ⟨here, more, hhere, hmore, rfl⟩ := map₂_ok h
      rw [List.length_append, strictBody_length body hhere, strictClauses_length rest hmore,
        definitionsInClauses]

end

private theorem strictFunction_outline {text : Text} {inClass : Bool} {head head' : FunctionHead}
    {body body' : List Stmt} {f : Symbol} (hstarts : StartsAtFirst (.function head body))
    (hsame : same (.function head body) (.function head' body') = true)
    (hplain : plain (.function head body) = true)
    (hf : strictFunction text inClass head = .ok f) :
    outline f = outline (tolerantFunction text inClass head') := by
  obtain ⟨⟨hname, hlines⟩, -⟩ : (head.name = head'.name ∧ _) ∧ _ := by simpa [same] using hsame
  obtain ⟨hlinesPlain, -⟩ : _ ∧ plainBody body = true := by simpa [plain] using hplain
  obtain ⟨hstart, hlast⟩ : strictStart head.extent head.decorators =
      tolerantStart head'.extent head'.decorators ∧ head.extent.last = head'.extent.reach :=
    lines_of_same rfl hstarts hlines hlinesPlain
  obtain ⟨marks, _, hf⟩ := bind_ok hf
  obtain ⟨params, _, hf⟩ := bind_ok hf
  obtain ⟨returns, _, hf⟩ := bind_ok hf
  rw [← Except.ok.inj hf]
  simp only [outline, tolerantFunction, hname, hstart, hlast]

private theorem strictClass_outline {text : Text} {head head' : ClassHead} {body body' : List Stmt}
    {c : Symbol} (hstarts : StartsAtFirst (.class head body))
    (hsame : same (.class head body) (.class head' body') = true)
    (hplain : plain (.class head body) = true) (hc : strictClass text head = .ok c) :
    outline c = outline (tolerantClass text head') := by
  obtain ⟨⟨⟨hname, hlines⟩, hbases⟩, -⟩ : ((head.name = head'.name ∧ _) ∧
      head.bases.map baseShape = head'.bases.map baseShape) ∧ _ := by simpa [same] using hsame
  simp only [plain, Bool.and_eq_true] at hplain
  obtain ⟨hstart, hlast⟩ : strictStart head.extent head.decorators =
      tolerantStart head'.extent head'.decorators ∧ head.extent.last = head'.extent.reach :=
    lines_of_same rfl hstarts hlines hplain.1.1
  have hsameBases : tolerantBases head.bases = tolerantBases head'.bases := by
    rw [tolerantBases_eq, tolerantBases_eq, hbases]
  obtain ⟨bases, hread, hc⟩ := bind_ok hc
  rw [strictBases_of_plain hplain.1.2, hsameBases] at hread
  rw [← Except.ok.inj hc, ← Except.ok.inj hread]
  simp only [outline, tolerantClass, classSymbol, hname, hstart, hlast]

private theorem tolerantStmt_of_not_definition {s : Stmt} (h : isDefinition s = false)
    (text : Text) (inClass : Bool) : (tolerantStmt text inClass s).symbols = [] := by
  cases s with
  | function head body => cases h
  | «class» head body => cases h
  | simple _ | assign _ _ _ | annotate _ _ _ _ | compound _ => rfl

mutual

private theorem strictStmt_lacks {text : Text} {inClass : Bool} {found : List Symbol} :
    ∀ s s' : Stmt, Everywhere StartsAtFirst [s] → same s s' = true → plain s = true →
      strictStmt text inClass s = .ok found →
      Lacks (tolerantStmt text inClass s').symbols found (hidden s)
  | .simple _, s', _, h, _, hfound | .assign _ _ _, s', _, h, _, hfound
  | .annotate _ _ _ _, s', _, h, _, hfound => by
      rw [tolerantStmt_of_not_definition (by simpa [same] using h)]
      rw [strictStmt] at hfound
      rw [← Except.ok.inj hfound]
      exact .none rfl
  | .compound clauses, s', _, h, _, hfound => by
      rw [tolerantStmt_of_not_definition (by simpa [same] using h)]
      rw [strictStmt] at hfound
      refine ⟨List.nil_sublist _, ?_⟩
      rw [strictClauses_length clauses hfound, hidden, List.length_nil, Nat.zero_add]
  | .function head body, .function head' body', hstarts, h, hplain, hfound => by
      obtain ⟨-, hbody⟩ : _ ∧ sameBody body body' = true := by simpa [same] using h
      obtain ⟨-, hplainBody⟩ : _ ∧ plainBody body = true := by simpa [plain] using hplain
      have hinside : Everywhere StartsAtFirst body :=
        fun s hs => hstarts s (.inFunction (List.mem_singleton_self _) hs)
      rw [strictStmt] at hfound
      obtain ⟨f, inner, hf, hinner, rfl⟩ := map₂_ok hfound
      rw [tolerantStmt, hidden]
      exact .cons (strictFunction_outline (hstarts _ (.here (by simp))) h hplain hf)
        (strictBody_lacks body body' hinside hbody hplainBody hinner)
  | .class head body, .class head' body', hstarts, h, hplain, hfound => by
      obtain ⟨-, hbody⟩ : _ ∧ sameBody body body' = true := by simpa [same] using h
      obtain ⟨-, hplainBody⟩ : _ ∧ plainBody body = true := by simpa [plain] using hplain
      have hinside : Everywhere StartsAtFirst body :=
        fun s hs => hstarts s (.inClass (List.mem_singleton_self _) hs)
      rw [strictStmt] at hfound
      obtain ⟨c, inner, hc, hinner, rfl⟩ := map₂_ok hfound
      rw [tolerantStmt, hidden]
      exact .cons (strictClass_outline (hstarts _ (.here (by simp))) h hplain hc)
        (strictBody_lacks body body' hinside hbody hplainBody hinner)

private theorem strictBody_lacks {text : Text} {inClass : Bool} {found : List Symbol} :
    ∀ body body' : List Stmt, Everywhere StartsAtFirst body → sameBody body body' = true →
      plainBody body = true → strictBody text inClass body = .ok found →
      Lacks (tolerantBody text inClass body').symbols found (hiddenIn body)
  | [], body', _, h, _, hfound => by
      obtain rfl : body' = [] := by simpa [sameBody] using h
      rw [strictBody] at hfound
      rw [← Except.ok.inj hfound]
      exact .none rfl
  | s :: rest, s' :: rest', hstarts, h, hplain, hfound => by
      obtain ⟨hs, hrest⟩ : same s s' = true ∧ sameBody rest rest' = true := by
        simpa [sameBody] using h
      obtain ⟨hplainHere, hplainRest⟩ : plain s = true ∧ plainBody rest = true := by
        simpa [plainBody] using hplain
      obtain ⟨hhereStarts, hrestStarts⟩ := Everywhere.cons_iff.mp hstarts
      rw [strictBody] at hfound
      obtain ⟨here, more, hhere, hmore, rfl⟩ := map₂_ok hfound
      exact (strictStmt_lacks s s' hhereStarts hs hplainHere hhere).append
        (strictBody_lacks rest rest' hrestStarts hrest hplainRest hmore)

end

/-- What the tolerant extractor misses in a module is what compound statements hide. -/
theorem strictModule_lacks {text : Text} {body body' : List Stmt} {found : List Symbol}
    (hstarts : Everywhere StartsAtFirst body) (h : sameModule body body' = true)
    (hplain : plainModule body = true) (hfound : strictModule text body = .ok found) :
    Lacks (tolerantModule text body').symbols found (hiddenIn body) := by
  induction body generalizing body' found with
  | nil =>
      obtain rfl : body' = [] := by simpa [sameModule] using h
      rw [strictModule] at hfound
      rw [← Except.ok.inj hfound]
      exact .none rfl
  | cons s rest ih =>
      cases body' with
      | nil => simp [sameModule] at h
      | cons s' rest' =>
          simp only [sameModule, Bool.and_eq_true, beq_iff_eq] at h
          obtain ⟨⟨⟨hextent, htargets⟩, hs⟩, hrest⟩ := h
          simp only [plainModule, plainBody, List.all_cons, Bool.and_eq_true] at hplain
          obtain ⟨⟨hplainTargets, hplainOthers⟩, hplainHere, hplainRest⟩ := hplain
          obtain ⟨hhereStarts, hrestStarts⟩ := Everywhere.cons_iff.mp hstarts
          rw [strictModule] at hfound
          obtain ⟨bound, hbound, hfound⟩ := bind_ok hfound
          obtain ⟨here, more, hhere, hmore, rfl⟩ := map₂_ok hfound
          have hconstant : Lacks (tolerantConstant text s') bound 0 := by
            apply Lacks.none
            rw [strictConstant_outline hbound, tolerantConstant_outline,
              constants_of_same hextent htargets hplainTargets]
          have hmodule : plainModule rest = true := by
            rw [plainModule, hplainOthers, hplainRest, Bool.and_self]
          have hstmt := strictStmt_lacks s s' hhereStarts hs hplainHere hhere
          have hall := (hconstant.append hstmt).append (ih hrestStarts hrest hmodule hmore)
          rw [Nat.zero_add] at hall
          exact hall

/-- Let both dialects have the same definitions in a source, and let them be plainly written. The
tolerant extractor then finds what the strict one finds, in order, without the definitions that have
a compound statement around them. So the two agree on names, kinds and lines exactly when there are
none of these. -/
theorem extract_tolerant_lacks_hidden {path content : String} {e : Extracted}
    (hpath : supports path = true) (hsame : sameTrees content = true)
    (hplain : plainTree content = true) (he : extract .strict path content = .ok e) :
    ∃ e', extract .tolerant path content = .ok e' ∧
      (e'.symbols.map outline).Sublist (e.symbols.map outline) ∧
      e.symbols.length = e'.symbols.length + hiddenDefinitions content ∧
      (e.symbols.map outline = e'.symbols.map outline ↔ hiddenDefinitions content = 0) := by
  unfold sameTrees at hsame
  split at hsame
  · rename_i body body' hstrict htolerant
    have hhidden : hiddenDefinitions content = hiddenIn body := by
      simp only [hiddenDefinitions, hstrict, Option.map_some, Option.getD_some]
    have hplainBody : plainModule body = true := by simpa [plainTree, hstrict] using hplain
    have hlacks : Lacks (tolerantModule ⟨path, PullReview.Text.lines content⟩ body').symbols
        e.symbols (hiddenIn body) := by
      simp only [extract, hpath, hstrict, Bool.not_true, Bool.false_eq_true, if_false] at he
      split at he
      · cases he
      · obtain ⟨v, hv, he⟩ := bind_ok he
        obtain ⟨found, hfound, rfl⟩ := visitModule_ok_iff.mp hv
        rw [← Except.ok.inj he]
        exact strictModule_lacks (everywhere_startsAtFirst hstrict) hsame hplainBody hfound
    refine ⟨_, ?_, hlacks.sublist, hhidden ▸ hlacks.length_eq, hhidden ▸ hlacks.eq_iff⟩
    simp only [extract, hpath, htolerant, Bool.not_true, Bool.false_eq_true, if_false]
  · cases hsame

private theorem exists_of_isOk {x : Except Fault Extracted} (h : x.isOk = true) :
    ∃ e, x = .ok e := by
  cases x with
  | error fault => cases h
  | ok e => exact ⟨e, rfl⟩

/-- A constant, an enum with a decorated method, and a function behind a condition. -/
def guardedSource : String :=
  "LIMIT = 5\nclass A(Map[K, V], enum.Enum):\n    @staticmethod\n    def f(): pass\n" ++
    "if LIMIT:\n    def g(): pass\n"

theorem guardedSource_lacks_one :
    hiddenDefinitions guardedSource = 1 ∧ ∃ e e', extract .strict "a.py" guardedSource = .ok e ∧
      extract .tolerant "a.py" guardedSource = .ok e' ∧
      (e'.symbols.map outline).Sublist (e.symbols.map outline) ∧
      e.symbols.length = e'.symbols.length + 1 := by
  have hhidden : hiddenDefinitions guardedSource = 1 := by decide +kernel
  have hok : (extract .strict "a.py" guardedSource).isOk = true := by decide +kernel
  obtain ⟨e, he⟩ := exists_of_isOk hok
  obtain ⟨e', he', hsub, hlen, _⟩ := extract_tolerant_lacks_hidden (by decide +kernel)
    (by decide +kernel) (by decide +kernel) he
  rw [hhidden] at hlen
  exact ⟨hhidden, e, e', he, he', hsub, hlen⟩

theorem guarded_function_lost :
    (extract .strict "a.py" "if x:\n    def f(): pass\n").toOption.map (·.symbols.map outline) =
        some [("f", "function", 2, 2)] ∧
      (extract .tolerant "a.py" "if x:\n    def f(): pass\n").toOption.map
        (·.symbols.map outline) = some [] := by
  decide +kernel

end PullReview.Extract
