import PullReview.Text.Lines

/-!
# Lines and joined lines

No line of a text holds a line boundary, and lines joined by line feeds are cut apart again as they
were, as long as the last of them is not empty.
-/

namespace PullReview.Text

/-- A text without line boundaries. -/
def IsLine (s : String) : Prop := ∀ c ∈ s.toList, isLineBoundary c = false

instance IsLine.decidable (s : String) : Decidable (IsLine s) :=
  List.decidableBAll _ _

theorem isLine_append {s t : String} (hs : IsLine s) (ht : IsLine t) : IsLine (s ++ t) := by
  intro c hc
  rw [String.toList_append] at hc
  rcases List.mem_append.mp hc with hc | hc
  · exact hs c hc
  · exact ht c hc

/-! ### Cutting -/

private theorem linesFrom_cons {line rest : List Char} {c : Char}
    (hc : isLineBoundary c = false) : linesFrom line (c :: rest) = linesFrom (c :: line) rest := by
  have hcr : c ≠ '\r' := by
    rintro rfl
    exact absurd hc (by decide)
  rw [linesFrom]
  · simp [hc]
  · rintro _ rfl
    exact fun _ => hcr rfl

private theorem linesFrom_line {line cs : List Char} (h : ∀ c ∈ cs, isLineBoundary c = false)
    (rest : List Char) :
    linesFrom line (cs ++ rest) = linesFrom (cs.reverse ++ line) rest := by
  induction cs generalizing line with
  | nil => rfl
  | cons c cs ih =>
      rw [List.cons_append, linesFrom_cons (h c (by simp)), ih fun d hd => h d (by simp [hd])]
      simp

private theorem mem_linesFrom {line cs l : List Char} (hl : l ∈ linesFrom line cs)
    (hline : ∀ c ∈ line, isLineBoundary c = false) : ∀ c ∈ l, isLineBoundary c = false := by
  fun_induction linesFrom line cs with
  | case1 line h => simp at hl
  | case2 line h =>
      obtain rfl := List.mem_singleton.mp hl
      simpa using hline
  | case3 line rest ih =>
      rcases List.mem_cons.mp hl with rfl | hl
      · simpa using hline
      · exact ih hl (by simp)
  | case4 line c rest _ hc ih =>
      rcases List.mem_cons.mp hl with rfl | hl
      · simpa using hline
      · exact ih hl (by simp)
  | case5 line c rest _ hc ih =>
      refine ih hl fun d hd => ?_
      rcases List.mem_cons.mp hd with rfl | hd
      · simpa using hc
      · exact hline d hd

theorem isLine_of_mem_lines {s l : String} (h : l ∈ lines s) : IsLine l := by
  obtain ⟨cs, hcs, rfl⟩ := List.mem_map.mp h
  intro c hc
  rw [String.toList_ofList] at hc
  exact mem_linesFrom hcs (by simp) c hc

/-! ### Joining -/

private theorem linesFrom_intercalate {ls : List (List Char)}
    (h : ∀ l ∈ ls, ∀ c ∈ l, isLineBoundary c = false) (hlast : ls.getLast? ≠ some []) :
    linesFrom [] (['\n'].intercalate ls) = ls := by
  induction ls with
  | nil => rfl
  | cons l ls ih =>
      cases ls with
      | nil =>
          have hne : l ≠ [] := by simpa using hlast
          have hcut : linesFrom [] (l ++ []) = linesFrom (l.reverse ++ []) [] :=
            linesFrom_line (h l (by simp)) []
          rw [List.append_nil, List.append_nil] at hcut
          rw [List.intercalate_singleton, hcut, linesFrom]
          simp [hne]
      | cons m ls =>
          rw [List.intercalate_cons_cons, List.append_assoc,
            linesFrom_line (h l (by simp)) (['\n'] ++ ['\n'].intercalate (m :: ls))]
          have hboundary : isLineBoundary '\n' = true := by decide
          rw [List.singleton_append, linesFrom]
          · simp only [hboundary, if_true, List.append_nil, List.reverse_reverse]
            rw [ih (fun k hk => h k (by simp [hk])) (by simpa using hlast)]
          · simp

theorem lines_intercalate {ls : List String} (h : ∀ l ∈ ls, IsLine l)
    (hlast : ls.getLast? ≠ some "") : lines ("\n".intercalate ls) = ls := by
  have hcut : linesFrom [] (['\n'].intercalate (ls.map String.toList)) = ls.map String.toList := by
    apply linesFrom_intercalate
    · intro l hl
      obtain ⟨s, hs, rfl⟩ := List.mem_map.mp hl
      exact h s hs
    · rw [List.getLast?_map]
      simpa using hlast
  rw [lines, String.toList_intercalate, show "\n".toList = ['\n'] from rfl, hcut, List.map_map]
  simp

end PullReview.Text
