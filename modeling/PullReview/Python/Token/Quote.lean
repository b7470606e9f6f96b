import PullReview.Python.Token

/-!
# The extent of string literals

`closeQuote` measures a literal up to its closing quotes. A formatted literal of the tolerant
dialect may hold any literal inside its braces, so `closeNested` keeps the literals and brace
fields that are open.
-/

namespace PullReview.Python

/-- The length of the text before the closing quotes. A backslash hides the character behind it,
and only triple quotes run over a line end. -/
def closeQuote (quote : Char) (triple : Bool) (length : Nat) : List Char → Option Nat
  | [] => none
  | '\\' :: _ :: rest => closeQuote quote triple (length + 2) rest
  | c :: rest =>
      if c == quote && (!triple || (rest.take 2 == [quote, quote])) then some length
      else if c == '\\' || (c == '\n' && !triple) then none
      else closeQuote quote triple (length + 1) rest

/-- What is open inside a formatted literal: a literal, an expression between braces with the
number of its open brackets, or the format behind such an expression. -/
inductive Nesting where
  | literal (quote : Char) (triple raw formatted : Bool)
  | field (depth : Nat)
  | format

def isLiteralLetter (c : Char) : Bool := "fFrRbBuUtT".toList.contains c

/-- The literal that opens at `quote`, after a word that may be made of literal letters. -/
private def opened (word : List Char) (quote : Char) (rest : List Char) : Nesting :=
  let letters := if word.all isLiteralLetter then word else []
  .literal quote (rest.take 2 == [quote, quote]) (letters.any fun c => c == 'r' || c == 'R')
    (letters.any fun c => "fFtT".toList.contains c)

/-- The length of the text up to the end of everything open. `word` holds the letters just read,
and `skip` counts characters already accounted for. -/
def closeNested (length : Nat) (word : List Char) (skip : Nat) :
    List Nesting → List Char → Option Nat
  | [], _ => some length
  | _ :: _, [] => none
  | top :: outer, c :: rest =>
      match skip with
      | skip + 1 => closeNested (length + 1) [] skip (top :: outer) rest
      | 0 =>
        match top with
        | .literal quote triple raw formatted =>
            if c == '\\' then
              let hidden :=
                if raw then
                  if rest.head? == some quote || rest.head? == some '\\' then 1 else 0
                else if rest.head? == some '{' && formatted then 0
                else if rest.take 2 == ['N', '{'] then (rest.takeWhile (· != '}')).length + 1
                else 1
              closeNested (length + 1) [] hidden (top :: outer) rest
            else if c == quote && (!triple || rest.take 2 == [quote, quote]) then
              match outer with
              | [] => some length
              | _ => closeNested (length + 1) [] (if triple then 2 else 0) outer rest
            else if c == '\n' && !triple then none
            else if formatted && (c == '{' || c == '}') then
              if rest.head? == some c then closeNested (length + 1) [] 1 (top :: outer) rest
              else if c == '{' then closeNested (length + 1) [] 0 (.field 0 :: top :: outer) rest
              else closeNested (length + 1) [] 0 (top :: outer) rest
            else closeNested (length + 1) [] 0 (top :: outer) rest
        | .field depth =>
            if c == '\'' || c == '"' then
              let inner := opened word c rest
              let marks := if rest.take 2 == [c, c] then 2 else 0
              closeNested (length + 1) [] marks (inner :: top :: outer) rest
            else if c == '(' || c == '[' || c == '{' then
              closeNested (length + 1) [] 0 (.field (depth + 1) :: outer) rest
            else if c == ')' || c == ']' || c == '}' then
              match depth with
              | 0 => closeNested (length + 1) [] 0 (if c == '}' then outer else top :: outer) rest
              | depth + 1 => closeNested (length + 1) [] 0 (.field depth :: outer) rest
            else if c == ':' && depth == 0 then
              closeNested (length + 1) [] 0 (.format :: outer) rest
            else
              let word := if c.isAlphanum || c == '_' then c :: word else []
              closeNested (length + 1) word 0 (top :: outer) rest
        | .format =>
            if c == '{' then closeNested (length + 1) [] 0 (.field 0 :: top :: outer) rest
            else if c == '}' then closeNested (length + 1) [] 0 outer rest
            else closeNested (length + 1) [] 0 (top :: outer) rest

end PullReview.Python
