import Mathlib.Data.List.Basic

/-!
# The words of a shell command line

A line with one simple command, cut into words by the quoting rules of the POSIX shell. A word keeps
which of its characters were quoted and where its quotes stood, since the expansions that follow
only look at what is unquoted. A line has no words here when it has more than one command, an
operator, a parameter or command expansion, or a quote left open: what it then runs is not told by
its words.
-/

set_option autoImplicit false

namespace Shell

inductive Quoting
  | bare
  | single
  | double
  deriving DecidableEq, Repr

/-- A piece of a word: a character as it stands, a quoted one, or a quotation mark, which stands for
nothing but keeps its word from being a reserved word or a name. -/
inductive Mark
  | plain (character : Char)
  | quoted (character : Char)
  | quote
  deriving DecidableEq, Repr

namespace Mark

@[simp] def character : Mark → Option Char
  | .plain character => some character
  | .quoted character => some character
  | .quote => none

def isPlain : Mark → Bool
  | .plain _ => true
  | _ => false

end Mark

abbrev Word := List Mark

/-- A word with its quotes removed. -/
def literal (word : Word) : List Char := word.filterMap Mark.character

def blank (character : Char) : Bool := character = ' ' || character = '\t'

def operator (character : Char) : Bool := character ∈ ['|', '&', ';', '<', '>', '(', ')']

def expands (character : Char) : Bool := character = '$' || character = '`'

/-- What a backslash quotes inside double quotes, newlines apart. -/
def escapable (character : Char) : Bool :=
  expands character || character = '"' || character = '\\'

def put (word : Option Word) (marks : Word) : Option Word := some (word.getD [] ++ marks)

def close (words : List Word) (word : Option Word) : List Word := words ++ word.toList

/-- The words that follow the finished `words` and the word in progress. -/
def tokens (words : List Word) (word : Option Word) : Quoting → List Char → Option (List Word)
  | .bare, [] => some (close words word)
  | .single, [] => none
  | .double, [] => none
  | .single, character :: rest =>
    if character = '\'' then tokens words (put word [.quote]) .bare rest
    else tokens words (put word [.quoted character]) .single rest
  | .double, character :: rest =>
    if character = '"' then tokens words (put word [.quote]) .bare rest
    else if character = '\\' then
      match rest with
      | [] => none
      | next :: rest =>
        -- An escaped newline joins two lines and leaves nothing behind.
        if next = '\n' then tokens words word .double rest
        else if escapable next then tokens words (put word [.quoted next]) .double rest
        else tokens words (put word [.quoted '\\', .quoted next]) .double rest
    else if expands character then none
    else tokens words (put word [.quoted character]) .double rest
  | .bare, character :: rest =>
    if character = '\n' then none
    else if blank character then tokens (close words word) none .bare rest
    else if character = '\'' then tokens words (put word [.quote]) .single rest
    else if character = '"' then tokens words (put word [.quote]) .double rest
    else if character = '\\' then
      match rest with
      | [] => none
      | next :: rest =>
        if next = '\n' then tokens words word .bare rest
        else tokens words (put word [.quoted next]) .bare rest
    else if operator character || expands character then none
    else if character = '#' && word.isNone then
      -- A comment runs to the end of the line.
      if '\n' ∈ rest then none else some words
    else tokens words (put word [.plain character]) .bare rest

def split (line : List Char) : Option (List Word) := tokens [] none .bare line

/-- What has been read of a line, without its quotes and the blanks between words. -/
def text (words : List Word) (word : Option Word) : List Char :=
  (close words word).flatMap literal

@[simp] theorem literal_nil : literal [] = [] := rfl

@[simp] theorem literal_cons (mark : Mark) (word : Word) :
    literal (mark :: word) = mark.character.toList ++ literal word := by
  cases mark <;> rfl

@[simp] theorem literal_append (word more : Word) :
    literal (word ++ more) = literal word ++ literal more := List.filterMap_append

@[simp] theorem text_put (words : List Word) (word : Option Word) (marks : Word) :
    text words (put word marks) = text words word ++ literal marks := by
  cases word <;> simp [text, close, put]

@[simp] theorem text_close (words : List Word) (word : Option Word) :
    text (close words word) none = text words word := by
  simp [text, close]

@[simp] theorem literal_put (word : Option Word) (marks : Word) :
    literal ((put word marks).getD []) = literal (word.getD []) ++ literal marks := by
  simp [put]

@[simp] theorem put_isSome (word : Option Word) (marks : Word) : (put word marks).isSome = true := rfl

end Shell
