import LexScan.Settings.Basic

/-! The command line: what it asks for and how its words are read. Options may stand anywhere behind
the command they belong to, short ones may be joined, and two dashes end the options. -/
namespace LexScan.Command

/-- A request to scan a file. -/
structure ScanRequest where
  file : String
  format : Option Format
  noSymbols : Bool
  noStats : Bool
  quiet : Bool
deriving DecidableEq, Repr

inductive SettingsRequest where
  | showAll
  | init
  | path
deriving DecidableEq, Repr

inductive Request where
  | scan (request : ScanRequest)
  | settings (request : SettingsRequest)
deriving DecidableEq, Repr

/-- What a command line asks for. -/
inductive Invocation where
  | run (verbosity : Nat) (request : Request)
  | version
  /-- The command line makes no sense. Help is left out: a request for it (`-h`, `--help`, `help`)
  has no answer of its own and is misuse too. -/
  | misuse
deriving DecidableEq, Repr

/-- The form of one word of the command line. -/
inductive Word where
  | plain (text : String)
  | short (letters : List Char)
  | long (name : String) (value : Option String)
  | endOfOptions
deriving DecidableEq, Repr

/-- An option with two dashes may have a value behind an equals sign. -/
def longWord (text : List Char) : Word :=
  let name := String.ofList (text.takeWhile (· != '='))
  match text.dropWhile (· != '=') with
  | [] => .long name none
  | _ :: value => .long name (some (String.ofList value))

def Word.ofText (text : String) : Word :=
  match text.toList with
  | ['-', '-'] => .endOfOptions
  | '-' :: '-' :: name => longWord name
  | ['-'] => .plain text
  | '-' :: letters => .short letters
  | _ => .plain text

/-- The number of requests for more detail at one level of the command line, if there are any. -/
abbrev Verbosity := Option Nat

def Verbosity.more (count : Verbosity) : Verbosity := some (count.getD 0 + 1)

/-- The options of a scan as far as they have been read. -/
structure ScanWords where
  file : Option String := none
  format : Option Format := none
  noSymbols : Bool := false
  noStats : Bool := false
  quiet : Bool := false
  verbosity : Verbosity := none

namespace ScanWords

/-- A file must be named, and only once. -/
def setFile (words : ScanWords) (file : String) : Option ScanWords :=
  if words.file.isSome || file.isEmpty then none else some { words with file := some file }

def setFormat (words : ScanWords) (name : String) : Option ScanWords :=
  if words.format.isSome then none
  else (Format.ofName? name).map fun format => { words with format := some format }

def setNoSymbols (words : ScanWords) : Option ScanWords :=
  if words.noSymbols then none else some { words with noSymbols := true }

def setNoStats (words : ScanWords) : Option ScanWords :=
  if words.noStats then none else some { words with noStats := true }

def setQuiet (words : ScanWords) : Option ScanWords :=
  if words.quiet then none else some { words with quiet := true }

def addVerbosity (words : ScanWords) : ScanWords :=
  { words with verbosity := words.verbosity.more }

def setLetters (words : ScanWords) : List Char → Option ScanWords
  | [] => some words
  | 'q' :: letters => words.setQuiet.bind (·.setLetters letters)
  | 'v' :: letters => words.addVerbosity.setLetters letters
  | _ => none

/-- An option with two dashes and no value. -/
def setFlag (words : ScanWords) (name : String) : Option ScanWords :=
  match name with
  | "no-symbols" => words.setNoSymbols
  | "no-stats" => words.setNoStats
  | "quiet" => words.setQuiet
  | "verbose" => some words.addVerbosity
  | _ => none

def setFiles (words : ScanWords) : List String → Option ScanWords
  | [] => some words
  | file :: files => (words.setFile file).bind (·.setFiles files)

def read (words : ScanWords) : List String → Option ScanWords
  | [] => some words
  | text :: rest =>
      match Word.ofText text with
      | .plain file => (words.setFile file).bind (·.read rest)
      | .short letters => (words.setLetters letters).bind (·.read rest)
      | .endOfOptions => words.setFiles rest
      | .long "format" (some name) => (words.setFormat name).bind (·.read rest)
      | .long "format" none =>
          match rest with
          | [] => none
          | next :: later =>
              match Word.ofText next with
              | .plain name => (words.setFormat name).bind (·.read later)
              | _ => none
      | .long name none => (words.setFlag name).bind (·.read rest)
      | .long _ (some _) => none

def toRequest? (words : ScanWords) : Option ScanRequest :=
  words.file.map fun file => ⟨file, words.format, words.noSymbols, words.noStats, words.quiet⟩

end ScanWords

/-- The innermost level at which more detail is asked for decides. -/
def innermost (outer inner : Verbosity) : Verbosity := inner <|> outer

def readScan (outer : Verbosity) (words : List String) : Invocation :=
  match (ScanWords.read {} words).bind fun read => read.toRequest?.map (read.verbosity, ·) with
  | some (inner, request) => .run ((innermost outer inner).getD 0) (.scan request)
  | none => .misuse

/-- Counts letters that ask for more detail, if there are no others. -/
def countLetters (count : Verbosity) : List Char → Option Verbosity
  | [] => some count
  | 'v' :: letters => countLetters count.more letters
  | _ => none

/-- The words behind a settings command: only requests for more detail. -/
def readDetail (count : Verbosity) : List String → Option Verbosity
  | [] => some count
  | text :: rest =>
      match Word.ofText text with
      | .short letters => (countLetters count letters).bind (readDetail · rest)
      | .long "verbose" none => readDetail count.more rest
      | .endOfOptions => if rest.isEmpty then some count else none
      | _ => none

def settingsRequest? : String → Option SettingsRequest
  | "show" => some .showAll
  | "init" => some .init
  | "path" => some .path
  | _ => none

def readSettingsCommand (outer count : Verbosity) : List String → Invocation
  | [] => .misuse
  | text :: rest =>
      match Word.ofText text with
      | .plain name =>
          match settingsRequest? name, readDetail none rest with
          | some request, some inner =>
              .run ((innermost (innermost outer count) inner).getD 0) (.settings request)
          | _, _ => .misuse
      | .short letters =>
          match countLetters count letters with
          | some counted => readSettingsCommand outer counted rest
          | none => .misuse
      | .long "verbose" none => readSettingsCommand outer count.more rest
      | _ => .misuse

/-- Short options before the command: more detail, or the version at once. -/
def readLetters (count : Verbosity) : List Char → Except Invocation Verbosity
  | [] => .ok count
  | 'v' :: letters => readLetters count.more letters
  | 'V' :: _ => .error .version
  | _ => .error .misuse

def readCommand (count : Verbosity) : List String → Invocation
  | [] => .misuse
  | text :: rest =>
      match Word.ofText text with
      | .plain "scan" => readScan count rest
      | .plain "config" => readSettingsCommand count none rest
      | .short letters =>
          match readLetters count letters with
          | .ok counted => readCommand counted rest
          | .error invocation => invocation
      | .long "verbose" none => readCommand count.more rest
      | .long "version" none => .version
      | _ => .misuse

/-- Reads the words of a command line. -/
def Invocation.ofWords (words : List String) : Invocation := readCommand none words

end LexScan.Command
