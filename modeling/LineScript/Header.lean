import LineScript.Text.Blank
import LineScript.Text.Digit
import LineScript.Text.Word

namespace LineScript.Header

open Text

def word? (t : Text) : Option (Text × Text) :=
  match t.takeWhile isWord with
  | [] => none
  | word => some (word, t.dropWhile isWord)

def digits? (t : Text) : Option (Text × Text) :=
  match t.takeWhile isDigit with
  | [] => none
  | digits => some (digits, t.dropWhile isDigit)

/-- What follows the blanks at the start of a text, of which there is at least one. -/
def blanks? : Text → Option Text
  | c :: t => if isBlank c then some (dropBlanks t) else none
  | [] => none

/-- Whether a text goes on, after blanks, with the brace that opens a body. -/
def opensBody (t : Text) : Bool := (dropBlanks t).head? == some openBrace

def handlerName? (line : Text) : Option Text := do
  let t ← after? "Except" line
  let t ← blanks? t
  let t ← after? "as" t
  let t ← blanks? t
  let (name, _) ← word? t
  some name

/-- The bounds of a loop, in what follows its variable. -/
def bounds? (t : Text) : Option (Text × Text) := do
  let t ← after? "ty" (dropBlanks t)
  let (first, t) ← digits? (dropBlanks t)
  let t ← after? ":" t
  let (last, t) ← digits? t
  let t := dropBlanks t
  let t := (after? "_CS-TINK" t).getD t
  if opensBody t then some (first, last) else none

/-- The longest part of a word, of at most `length` characters, that leaves the bounds of a loop
after it. -/
def loopVariable? (word rest : Text) : (length : Nat) → Option (Text × Text × Text)
  | 0 => none
  | length + 1 =>
      match bounds? (word.drop (length + 1) ++ rest) with
      | some (first, last) => some (word.take (length + 1), first, last)
      | none => loopVariable? word rest length

/-- The variable and the bounds of a loop over integers. The variable is the longest start of a word
that leaves a loop header, so that it may hold the mark that follows it. -/
def forLoop? (line : Text) : Option (Text × Text × Text) := do
  let t ← after? "entr_i" line
  let (word, rest) ← word? (dropBlanks t)
  loopVariable? word rest word.length

def className? (line : Text) : Option Text := do
  let t ← after? "class" line
  let t ← blanks? t
  let (name, t) ← word? t
  if opensBody t then some name else none

/-- The text up to the last closing parenthesis of the first line that stands before a body. -/
def parameterText? : Text → Option Text
  | [] => none
  | c :: t =>
      if c = '\n' then none
      else
        match parameterText? t with
        | some inner => some (c :: inner)
        | none => if c = ')' && opensBody t then some [] else none

def function? (line : Text) : Option (Text × List Text) := do
  let t ← after? "func" line
  let t ← blanks? t
  let (name, t) ← word? t
  let t ← after? "(" (dropBlanks t)
  let inner ← parameterText? t
  some (name, commaParts inner)

end LineScript.Header
