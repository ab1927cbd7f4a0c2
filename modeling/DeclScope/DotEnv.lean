import DeclScope.Input
import DeclScope.Text.Alphanumeric
import DeclScope.Text.Blank
import DeclScope.Text.Utf8

/-!
# Environment files

An environment file assigns variables, one assignment a line.  A value may be quoted, and a quoted
value may span lines; a dollar sign stands for the value of another variable, taken from the
environment or from an earlier line.  A line that cannot be read ends the file: what stands before
it counts, what follows does not.

A variable of the environment is never overwritten.

The file is looked for in a directory and in those above it, and the first one that is found counts.
-/

namespace DeclScope.DotEnv

/-- Variables and their values, the earliest first. -/
abbrev Variables := List (String × String)

/-- The first value of a variable. -/
def lookup (assigned : Variables) (name : String) : Option String :=
  (assigned.find? (·.1 == name)).map (·.2)

/-- The lines of a file, each with its line feed. -/
def physicalLines : List UInt8 → List (List UInt8)
  | [] => []
  | byte :: rest =>
    if byte = 0x0A then [byte] :: physicalLines rest
    else match physicalLines rest with
      | [] => [[byte]]
      | line :: lines => (byte :: line) :: lines

/-- The text of a line, if it is valid UTF-8. -/
def lineText? (line : List UInt8) : Option (List Char) :=
  (Utf8.pieces line).mapM id

/-- Where the end of a line falls. -/
inductive LineState where
  /-- Outside quotes. -/
  | plain
  /-- Outside quotes, after a blank. -/
  | blank
  | escaped
  | strong
  | strongEscaped
  | weak
  | weakEscaped
deriving DecidableEq, Inhabited

/-- The state after a character outside quotes. -/
def LineState.outside (c : Char) : LineState :=
  if c = '\\' then escaped else if c = '"' then weak else if c = '\'' then strong else plain

/-- The state after one more character. -/
def LineState.next (state : LineState) (c : Char) : LineState :=
  match state with
  | plain => if Text.isBlank c && c != '\n' && c != '\r' then blank else outside c
  | blank => outside c
  | escaped => plain
  | strong => if c = '\\' then strongEscaped else if c = '\'' then plain else strong
  | strongEscaped => strong
  | weak => if c = '\\' then weakEscaped else if c = '"' then plain else weak
  | weakEscaped => weak

/-- Read a line up to a comment: what is kept, and the state at the end unless a comment follows. -/
def scanLine : LineState → List Char → List Char × Option LineState
  | state, [] => ([], some state)
  | state, c :: cs =>
    if state = .blank && c = '#' then ([], none)
    else
      let (kept, final) := scanLine (state.next c) cs
      (c :: kept, final)

/-- A line without its line feed. -/
def chomp (line : List Char) : List Char :=
  match line.reverse with
  | '\n' :: '\r' :: rest => rest.reverse
  | '\n' :: rest => rest.reverse
  | _ => line

/-- Join the lines of quoted values that span several.  Nothing stands for a line that cannot be
read; lines after it do not matter. -/
def joinLines (joined : List Char) (state : LineState) :
    List (Option (List Char)) → List (Option (List Char))
  | [] => if state = .plain then [] else [none]
  | none :: _ => [none]
  | some line :: rest =>
    let whole := joined ++ line
    if (whole.dropWhile Text.isBlank).head? = some '#' then joinLines [] .plain rest
    else match scanLine state line with
      | (kept, none) => some (joined ++ kept) :: joinLines [] .plain rest
      | (_, some .plain) => some (chomp whole) :: joinLines [] .plain rest
      | (_, some state) => joinLines whole state rest

/-- How far the reading of a value is. -/
inductive ValueState where
  | plain
  | weak
  | strong
  /-- Only blanks and a comment may follow. -/
  | ending
  | escaped (quoted : Bool)
  /-- In the name of a variable. -/
  | name (quoted : Bool) (read : List Char)
  /-- In the name of a variable between braces. -/
  | braced (quoted : Bool) (read : List Char)
deriving DecidableEq, Inhabited

/-- The state outside of names and escapes. -/
def ValueState.base (quoted : Bool) : ValueState := if quoted then weak else plain

/-- The characters that a backslash can stand before. -/
def unescape? (c : Char) : Option Char :=
  if c = '\\' || c = '\'' || c = '"' || c = '$' || c = ' ' then some c
  else if c = 'n' then some '\n'
  else none

/-- The characters of a variable's name after a dollar sign without braces: letters and digits of
any script.  A name that is assigned may hold further characters, but only those of ASCII. -/
def isNameChar (c : Char) : Bool := Text.isAlphanumeric c

/-- Read one character of a value: the text that it adds and the state after it. -/
def ValueState.next? (substitute : List Char → List Char) (state : ValueState) (c : Char) :
    Option (List Char × ValueState) :=
  match state with
  | ending => if c = ' ' || c = '\t' then some ([], ending) else none
  | escaped quoted => (unescape? c).map fun c => ([c], base quoted)
  | strong => some (if c = '\'' then ([], plain) else ([c], strong))
  | name quoted read =>
    some <|
      if isNameChar c then ([], name quoted (read ++ [c]))
      else if c = '\x7b' && read.isEmpty then ([], braced quoted [])
      else if c = '$' then (substitute read, name quoted [])
      else (substitute read ++ [c], base quoted)
  | braced quoted read =>
    some (if c = '\x7d' then (substitute read, base quoted) else ([], braced quoted (read ++ [c])))
  | weak =>
    some <|
      if c = '$' then ([], name true [])
      else if c = '"' then ([], plain)
      else if c = '\\' then ([], escaped true)
      else ([c], weak)
  | plain =>
    some <|
      if c = '$' then ([], name false [])
      else if c = '\'' then ([], strong)
      else if c = '"' then ([], weak)
      else if c = '\\' then ([], escaped false)
      else if c = ' ' || c = '\t' then ([], ending)
      else ([c], plain)

/-- What is added at the end of a value, if it may end there. -/
def ValueState.finish? (substitute : List Char → List Char) : ValueState → Option (List Char)
  | plain | ending | escaped false => some []
  | name false read => some (substitute read)
  | _ => none

/-- Read a value. -/
def readValue? (substitute : List Char → List Char) : ValueState → List Char → Option (List Char)
  | state, [] => state.finish? substitute
  | state, c :: cs =>
    if state = .ending && c = '#' then some []
    else (state.next? substitute c).bind fun (added, state) =>
      (readValue? substitute state cs).map (added ++ ·)

/-- Whether a character can begin a name. -/
def beginsName (c : Char) : Bool := c.isAlpha || c == '_'

/-- Whether a character can stand in a name. -/
def continuesName (c : Char) : Bool := c.isAlphanum || c == '_' || c == '.'

/-- Read a name: the name and what follows it, without the blanks between. -/
def readName? (cs : List Char) : Option (List Char × List Char) :=
  if cs.head?.any beginsName then
    some (cs.takeWhile continuesName, (cs.dropWhile continuesName).dropWhile Text.isBlank)
  else none

/-- What follows an equals sign, without blanks before it. -/
def afterEquals? : List Char → Option (List Char)
  | '=' :: rest => some (rest.dropWhile Text.isBlank)
  | _ => none

/-- Read the name and the equals sign of an assignment; the word `export` may stand before. -/
def readTarget? (cs : List Char) : Option (List Char × List Char) := do
  let (name, rest) ← readName? cs
  match afterEquals? rest with
  | some value => return (name, value)
  | none =>
    if name = "export".toList then
      let (name, rest) ← readName? rest
      return (name, ← afterEquals? rest)
    else none

/-- What a line says: nothing, an assignment, or something that cannot be read. -/
inductive Line where
  | nothing
  | assignment (name value : String)
  | unreadable
deriving DecidableEq, Inhabited

/-- Whether nothing but a comment is left of a line. -/
def isVoid (cs : List Char) : Bool := cs.isEmpty || cs.head? == some '#'

/-- Read a line, given the value of each variable so far. -/
def readLine (value? : String → Option String) (line : List Char) : Line :=
  let cs := Text.trimmed line
  if isVoid cs then .nothing
  else
    let substitute (name : List Char) := ((value? (String.ofList name)).getD "").toList
    match readTarget? cs with
    | none => .unreadable
    | some (name, rest) =>
      if isVoid rest then .assignment (String.ofList name) ""
      else match readValue? substitute .plain rest with
        | some value => .assignment (String.ofList name) (String.ofList value)
        | none => .unreadable

/-- The assignments of the lines, up to the first that cannot be read.  A variable of the
environment hides what the file says of it. -/
def assignments (environment assigned : Variables) : List (Option (List Char)) → Variables
  | [] => assigned
  | none :: _ => assigned
  | some line :: rest =>
    let value? (name : String) :=
      (lookup environment name).or (lookup assigned name)
    match readLine value? line with
    | .nothing => assignments environment assigned rest
    | .unreadable => assigned
    | .assignment name value => assignments environment (assigned ++ [(name, value)]) rest

/-- The runs of characters of one class. -/
def runsOf (inClass : Char → Bool) (cs : List Char) : List (List Char) :=
  Text.wordsOf (cs.map fun c => if inClass c then c else ' ')

/-- What stands after each opening brace, up to the next closing one. -/
def bracedIn : List Char → List (List Char)
  | [] => []
  | c :: cs => if c = '\x7b' then cs.takeWhile (· != '\x7d') :: bracedIn cs else bracedIn cs

/-- What could be the name of a variable in a file: a name that is assigned, or one that a dollar
sign stands before, without braces or with them. -/
def mentioned (bytes : List UInt8) : List String :=
  let cs := Utf8.decode bytes
  (runsOf continuesName cs ++ runsOf isNameChar cs ++ bracedIn cs).map String.ofList

/-- The bytes of a file without a byte-order mark. -/
def withoutMark : List UInt8 → List UInt8
  | 0xEF :: 0xBB :: 0xBF :: rest => rest
  | bytes => bytes

/-- The environment with the variables of a file added to it. -/
def extend (environment : Variables) (bytes : List UInt8) : Variables :=
  environment ++
    assignments environment []
      (joinLines [] .plain ((physicalLines (withoutMark bytes)).map lineText?))

/-- The bytes of the environment file, given what lies at its place in a directory and in each one
above it.  A directory in its place is passed over; what cannot be looked at ends the search. -/
def find? : List PathStatus → Option (List UInt8)
  | [] => none
  | .file bytes :: _ => some bytes
  | .missing :: above => find? above
  | .unreadable reason :: above =>
    if PathStatus.unreadable reason = .directory then find? above else none

/-- The environment with the variables of the file that is found added to it. -/
def complete (environment : Variables) (places : List PathStatus) : Variables :=
  match find? places with
  | some bytes => extend environment bytes
  | none => environment

end DeclScope.DotEnv
