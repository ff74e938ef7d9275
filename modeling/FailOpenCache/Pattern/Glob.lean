/-!
# Parts of a glob

A pattern is cut into parts: a run of any characters, any one character, one character literally,
or a bracketed class. A backslash makes the next character literal, and stands for itself at the
end of the pattern. A class is closed by the first bracket that no backslash precedes. A class
without a body, or one that is never closed, is no class: its opening bracket and what was read of
its body stand for themselves.
-/

namespace FailOpenCache.Glob

/-- One part of a pattern. -/
inductive Part where
  /-- Any characters, or none. -/
  | anyRun
  /-- Any one character. -/
  | anyOne
  /-- This character. -/
  | literal (character : Char)
  /-- One character of a class, given by the text between its brackets. -/
  | bracket (body : List Char)
deriving DecidableEq

/-- Where in a pattern a character stands. The body of a class is kept the latest character
first. -/
inductive Place where
  /-- Outside of classes. -/
  | plain
  /-- Behind a backslash outside of classes. -/
  | escaped
  /-- Behind the opening bracket of a class. -/
  | opened
  /-- In the body of a class. -/
  | inside (body : List Char)
  /-- Behind a backslash in the body of a class. -/
  | insideEscaped (body : List Char)
deriving DecidableEq

/-- The literal parts of an opening bracket and of what was read behind it, the marks of negation
left out. -/
def literalBracket (body : List Char) : List Part :=
  .literal '[' :: (body.dropWhile (· == '^')).map .literal

/-- The parts of a closed bracket: a class if it has a body. -/
def closeBracket (body : List Char) : List Part :=
  if body = [] ∨ body = ['^'] then literalBracket body else [.bracket body]

/-- One character of the body of a class; those that would begin a class or combine two of them
are escaped. -/
def stepInside (body : List Char) (character : Char) : List Part × Place :=
  if character = ']' then (closeBracket body.reverse, .plain)
  else if character = '\\' then ([], .insideEscaped body)
  else if character = '[' ∨ character = '&' ∨ character = '~' then
    ([], .inside (character :: '\\' :: body))
  else ([], .inside (character :: body))

/-- One character: the parts that it completes and where the next one stands. -/
def step (place : Place) (character : Char) : List Part × Place :=
  match place with
  | .plain =>
    if character = '*' then ([.anyRun], .plain)
    else if character = '?' then ([.anyOne], .plain)
    else if character = '\\' then ([], .escaped)
    else if character = '[' then ([], .opened)
    else ([.literal character], .plain)
  | .escaped => ([.literal character], .plain)
  | .opened =>
    if character = '^' ∨ character = '!' then ([], .inside ['^']) else stepInside [] character
  | .inside body => stepInside body character
  | .insideEscaped body => ([], .inside (character :: '\\' :: body))

/-- The parts that the end of the pattern completes. -/
def finish : Place → List Part
  | .plain => []
  | .escaped => [.literal '\\']
  | .opened => literalBracket []
  | .inside body => literalBracket body.reverse
  | .insideEscaped body => literalBracket body.reverse

/-- The parts of the characters to come. -/
def partsFrom (place : Place) : List Char → List Part
  | [] => finish place
  | character :: rest =>
    let (parts, next) := step place character
    parts ++ partsFrom next rest

/-- The parts of a pattern. -/
def parts (pattern : List Char) : List Part :=
  partsFrom .plain pattern

end FailOpenCache.Glob
