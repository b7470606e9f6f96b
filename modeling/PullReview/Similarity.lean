import PullReview.Path
import PullReview.Similarity.Normal
import PullReview.Symbol

/-!
# Structural similarity

Two symbols with one signature are alike, and nearly so if the signatures differ only in blanks and
letter case. Otherwise the share of common lines counts, lines counted as often as they occur and
measured against the longer body.
-/

namespace PullReview.Similarity

/-- A part of a whole; the part of nothing is none. -/
structure Share where
  part : Nat
  whole : Nat
  deriving DecidableEq, Repr

namespace Share

def none : Share := ⟨0, 1⟩

def full : Share := ⟨1, 1⟩

def toFloat (s : Share) : Float := s.part.toFloat / s.whole.toFloat

end Share

/-- The number of lines two bodies have in common, each counted as often as both have it. -/
def commonLines : List String → List String → Nat
  | [], _ => 0
  | l :: ls, others =>
      if others.contains l then commonLines ls (others.erase l) + 1 else commonLines ls others

def lineShare (a b : List String) : Share :=
  if a.isEmpty || b.isEmpty then .none else ⟨commonLines a b, max a.length b.length⟩

/-- The score of two signatures that are there and agree. -/
def signatureShare? (a b : Symbol) : Option Share :=
  match a.signature, b.signature with
  | some s, some t =>
      if s == "" || t == "" then .none
      else if s == t then some .full
      else if normalSignature s == normalSignature t then some ⟨9, 10⟩
      else .none
  | _, _ => .none

def bodyShare (a b : Symbol) : Share :=
  match a.code, b.code with
  | some s, some t =>
      if s == "" || t == "" then .none
      else
        lineShare (normalLines (Path.language? a.file) s) (normalLines (Path.language? b.file) t)
  | _, _ => .none

/-- The structural similarity of two symbols. -/
def structural (a b : Symbol) : Share := (signatureShare? a b).getD (bodyShare a b)

/-- Two files of known and different languages. -/
def languagesDiffer (a b : Symbol) : Bool :=
  match Path.language? a.file, Path.language? b.file with
  | some l, some m => l != m
  | _, _ => false

end PullReview.Similarity
