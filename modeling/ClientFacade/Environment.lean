import ClientFacade.Encoding
import ClientFacade.Store.Basic

/-!
# Variables of the environment

Variables may be set in a file of the working directory, one statement after the other. A statement
is a name, with `export` before it or not, and a value behind an equals sign. A value in quotes may
hold line ends and escapes, any other value ends with its line or before a comment. In a value,
`${name}` and `${name:-default}` stand for the value of a variable. What the environment already
sets takes precedence over the file.
-/

namespace ClientFacade

abbrev Environment := List (Text × Text)

namespace Environment

inductive Statement
  | binding (variable_ : Text) (value : Option Text)
  | blank
  | unreadable (line : Nat)
  deriving DecidableEq, Repr

def isSpace (c : Char) : Bool := isBlank c && c ≠ '\n'

def skipSpaces (text : Text) : Text := text.dropWhile isSpace

/-- What follows `export` and spaces, if the text begins with both. -/
def skipExport (text : Text) : Text :=
  match Text.dropBeginning? "export" text with
  | some (c :: rest) => if isSpace c then skipSpaces rest else text
  | _ => text

def cut (inside : Char → Bool) (text : Text) : Text × Text :=
  (text.takeWhile inside, text.dropWhile inside)

def nonEmpty? (found : Text × Text) : Option (Text × Text) :=
  if found.1 = [] then none else some found

/-- The name at the beginning of a statement, in single quotes or not. -/
def name? : Text → Option (Text × Text)
  | '\'' :: rest =>
    match cut (· ≠ '\'') rest with
    | (name, _ :: after) => nonEmpty? (name, after)
    | (_, []) => none
  | text => nonEmpty? (cut (fun c => !(c = '=' || c = '#' || isBlank c)) text)

/-- A value up to its closing quote, and what follows. A quote behind a backslash closes it only if
no later one does. -/
def quoted? (quote : Char) : Text → Option (Text × Text)
  | [] => none
  | [c] => if c = quote then some ([], []) else none
  | c :: d :: rest =>
    if c = quote then some ([], d :: rest)
    else if c = '\\' && d = quote then
      match quoted? quote rest with
      | some (value, after) => some (c :: d :: value, after)
      | none => some ([c], rest)
    else (quoted? quote (d :: rest)).map fun (value, after) => (c :: value, after)

def singleLetters : List (Char × Char) := [('\\', '\\'), ('\'', '\'')]

def doubleLetters : List (Char × Char) :=
  [('\\', '\\'), ('\'', '\''), ('"', '"'), ('a', '\x07'), ('b', '\x08'), ('f', '\x0c'),
   ('n', '\n'), ('r', '\r'), ('t', '\t'), ('v', '\x0b')]

def unescape (letters : List (Char × Char)) : Text → Text
  | [] => []
  | [c] => [c]
  | c :: d :: rest =>
    match if c = '\\' then letters.lookup d else none with
    | some meant => meant :: unescape letters rest
    | none => c :: unescape letters (d :: rest)

/-- The part of a line before a blank and a comment. -/
def beforeComment : Text → Text
  | [] => []
  | c :: rest =>
    if isBlank c && (Text.trimLeft rest).head? = some '#' then [] else c :: beforeComment rest

def value? : Text → Option (Text × Text)
  | '\'' :: rest =>
    (quoted? '\'' rest).map fun (value, after) => (unescape singleLetters value, after)
  | '"' :: rest =>
    (quoted? '"' rest).map fun (value, after) => (unescape doubleLetters value, after)
  | text =>
    let (line, after) := cut (· ≠ '\n') text
    some (Text.trimRight (beforeComment line), after)

def lineEnd? (text : Text) : Option Text :=
  let rest :=
    match skipSpaces text with
    | '#' :: rest => rest.dropWhile (· ≠ '\n')
    | rest => rest
  match rest with
  | [] => some []
  | c :: after => if c = '\n' then some after else none

def dropLine (text : Text) : Text := (text.dropWhile (· ≠ '\n')).drop 1

/-- A binding and what follows it, or a place on its line where the text is none. -/
def binding (text : Text) : Except Text (Statement × Text) :=
  match name? text with
  | none => .error text
  | some (name, after) =>
    let found : Option (Option Text × Text) :=
      match skipSpaces after with
      | '=' :: rest => (value? (skipSpaces rest)).map fun (value, rest) => (some value, rest)
      | rest => some (none, rest)
    match found with
    | none => .error after
    | some (value, after) =>
      match lineEnd? after with
      | some rest => .ok (.binding name value, rest)
      | none => .error after

def statement (text : Text) : Except Text (Statement × Text) :=
  match text.trimLeft with
  | [] => .ok (.blank, [])
  | c :: rest =>
    match skipExport (c :: rest) with
    | '#' :: rest => .ok (.blank, dropLine rest)
    | rest => binding rest

def linesBefore (text rest : Text) : Nat :=
  (text.take (text.length - rest.length)).count '\n'

/-- The statements of a text that begins at a line. A line that is none is passed over. -/
def statements (line : Nat) (text : Text) : List Statement :=
  if text = [] then []
  else
    let (found, rest) :=
      match statement text with
      | .ok (found, rest) => (found, rest)
      | .error place => (.unreadable line, dropLine place)
    if rest.length < text.length then
      found :: statements (line + linesBefore text rest) rest
    else [found]
termination_by text.length

def reference? (text : Text) : Option (Text × Text × Text) :=
  let (name, after) := cut (fun c => c ≠ '\x7d' && c ≠ ':') text
  match after with
  | ':' :: '-' :: rest =>
    match cut (· ≠ '\x7d') rest with
    | (default, _ :: after) => some (name, default, after)
    | (_, []) => none
  | c :: after => if c = '\x7d' then some (name, [], after) else none
  | [] => none

theorem reference?_length {text variable_ default after : Text}
    (h : reference? text = some (variable_, default, after)) : after.length < text.length := by
  have shorter (p : Char → Bool) (text : Text) : (text.dropWhile p).length ≤ text.length :=
    (List.dropWhile_suffix p).length_le
  simp only [reference?, cut] at h
  have outer := shorter (fun c => c ≠ '\x7d' && c ≠ ':') text
  split at h
  · next rest split_ =>
    rw [split_] at outer
    split at h
    · next _ found =>
      have inner := shorter (· ≠ '\x7d') rest
      simp only [Prod.mk.injEq] at found
      rw [found.2] at inner
      simp only [Option.some.injEq, Prod.mk.injEq] at h
      simp only [List.length_cons] at outer inner
      rw [h.2.2] at inner
      omega
    · simp at h
  · next c rest _ split_ =>
    rw [split_] at outer
    split at h
    · simp only [Option.some.injEq, Prod.mk.injEq] at h
      simp only [List.length_cons, h.2.2] at outer
      omega
    · simp at h
  · simp at h

def expand (valueOf : Text → Option Text) (text : Text) : Text :=
  match text with
  | [] => []
  | '$' :: '\x7b' :: rest =>
    match _h : reference? rest with
    | some (name, default, after) => (valueOf name).getD default ++ expand valueOf after
    | none => '$' :: '\x7b' :: expand valueOf rest
  | c :: rest => c :: expand valueOf rest
termination_by text.length
decreasing_by
  · have := reference?_length _h
    simp only [List.length_cons]
    omega
  · simp only [List.length_cons]
    omega
  · simp only [List.length_cons]
    omega

/-- The value of a variable, which is empty for a name without one. -/
def valueIn (environment : Environment) (set : List (Text × Option Text)) (name : Text) :
    Option Text :=
  match List.lookup name environment with
  | some value => some value
  | none => (set.lookup name).map (·.getD [])

/-- The variables that statements set, the last setting first. -/
def settings (environment : Environment) (set : List (Text × Option Text)) :
    List Statement → List (Text × Option Text)
  | [] => set
  | .binding name value :: rest =>
    settings environment ((name, value.map (expand (valueIn environment set))) :: set) rest
  | _ :: rest => settings environment set rest

/-- The value of a variable in the environment or else as statements set it. -/
def lookup (environment : Environment) (statements : List Statement) (name : Text) : Option Text :=
  match List.lookup name environment with
  | some value => some value
  | none => ((settings environment [] statements).lookup name).join

def unreadableReport (line : Nat) : Text :=
  "python-dotenv could not parse statement starting at line " ++ Text.ofNat line

def reports (statements : List Statement) : List Text :=
  statements.filterMap fun statement =>
    match statement with
    | .unreadable line => some (unreadableReport line)
    | _ => none

def fileName : Path := Path.ofText ".env"

def readFile (store : Store) : Except DecodeFault (List Statement) :=
  match store.read fileName with
  | .error _ => .ok []
  | .ok bytes => do return statements 1 (← Encoding.decodeUtf8 bytes).unifyLineEnds

end Environment

end ClientFacade
