import Vigil.Text.Digits

/-!
What the program is asked for on its command line. Arguments are taken one by one; the first that
asks for help or the version, or that is wrong, decides.
-/

namespace Vigil.Program

structure Options where
  config : Option String
  foreground : Bool
  /-- Seconds between rounds of checks, in place of the setting. -/
  checkInterval : Option Nat
  listCheckers : Bool
deriving DecidableEq, Repr

instance : Inhabited Options := ⟨⟨none, false, none, false⟩⟩

/-- What a command line asks for. -/
inductive Request where
  | help
  | version
  /-- It asks for nothing that there is. -/
  | wrong
  | start (o : Options)
deriving DecidableEq, Repr

def name : String := "servicemon"

def versionText : String := name ++ " 0.1.0\n"

def usageText : String := "Usage: " ++ name ++ " [OPTIONS]\n"

def helpText : String :=
  "Checks network services and reports up/down transitions as events\n\n" ++ usageText ++
  "\nOptions:\n" ++
  "  -c, --config <PATH>             Configuration file " ++
    "(default: $XDG_CONFIG_HOME/servicemon/config.toml)\n" ++
  "  -n, --foreground                Stay in the foreground and log to stderr\n" ++
  "      --check-interval <SECONDS>  Seconds between check cycles, overriding the configuration\n" ++
  "      --list-checkers             Print the available checkers and exit\n" ++
  "  -h, --help                      Print help\n" ++
  "  -V, --version                   Print version\n"

inductive Flag where
  | config
  | checkInterval
  | foreground
  | listCheckers
  | help
  | version
deriving DecidableEq, Repr

namespace Flag

def takesValue : Flag → Bool
  | config | checkInterval => true
  | _ => false

def ofName? (s : String) : Option Flag :=
  [("config", config), ("check-interval", checkInterval), ("foreground", foreground),
    ("list-checkers", listCheckers), ("help", help), ("version", version)].lookup s

def ofLetter? (c : Char) : Option Flag :=
  [('c', config), ('n', foreground), ('h', help), ('V', version)].lookup c

end Flag

/-- A number of seconds: up to 64 bits, perhaps with a plus. -/
def readSeconds? (s : String) : Option Nat :=
  let digits := match s.toList with
    | '+' :: rest => rest
    | l => l
  let n := Text.decimalValue digits
  if !digits.isEmpty && digits.all Text.isDigit && n < Nat.pow 2 64 then some n else none

/-- Set an option to a value, unless it has been set or the value is none for it. -/
def Options.setValue? (o : Options) (f : Flag) (value : String) : Option Options :=
  match f with
  | .config => if o.config.isSome || value == "" then none else some { o with config := some value }
  | .checkInterval =>
    if o.checkInterval.isSome then none
    else (readSeconds? value).map fun n => { o with checkInterval := some n }
  | _ => none

/-- Switch an option on, unless it is. -/
def Options.switch? (o : Options) (f : Flag) : Option Options :=
  match f with
  | .foreground => if o.foreground then none else some { o with foreground := true }
  | .listCheckers => if o.listCheckers then none else some { o with listCheckers := true }
  | _ => none

inductive Reading where
  | going (o : Options)
  /-- The next argument is a value. -/
  | awaiting (f : Flag) (o : Options)
  | over (r : Request)
deriving DecidableEq, Repr

def Reading.ofOptions : Option Options → Reading
  | some o => .going o
  | none => .over .wrong

def readFlag (o : Options) : Flag → Reading
  | .help => .over .help
  | .version => .over .version
  | f => .ofOptions (o.switch? f)

/-- Read an argument with a long name, perhaps with a value behind an equals sign. -/
def readLong (o : Options) (s : List Char) : Reading :=
  let name := String.ofList (s.takeWhile (· != '='))
  let value := match s.dropWhile (· != '=') with
    | [] => none
    | _ :: rest => some (String.ofList rest)
  match Flag.ofName? name, value with
  | none, _ => .over .wrong
  | some f, none => if f.takesValue then .awaiting f o else readFlag o f
  | some f, some v => .ofOptions (o.setValue? f v)

/-- Read letters; what follows the letter of a flag with a value is the value. -/
def readLetters (o : Options) : List Char → Reading
  | [] => .going o
  | c :: rest =>
    match Flag.ofLetter? c with
    | none => .over .wrong
    | some f =>
      if f.takesValue then
        match rest with
        | [] => .awaiting f o
        | '=' :: value => .ofOptions (o.setValue? f (String.ofList value))
        | value => .ofOptions (o.setValue? f (String.ofList value))
      else match readFlag o f with
        | .going o => readLetters o rest
        | reading => reading

def isOption (s : String) : Bool :=
  match s.toList with
  | '-' :: _ :: _ => true
  | _ => false

def readArgument (o : Options) (s : String) : Reading :=
  match s.toList with
  | '-' :: '-' :: rest => readLong o rest
  | '-' :: c :: rest => readLetters o (c :: rest)
  | _ => .over .wrong

def readFrom : Reading → List String → Request
  | .over r, _ => r
  | .going o, [] => .start o
  | .awaiting .., [] => .wrong
  | .awaiting f o, value :: rest =>
    if isOption value then .wrong else readFrom (.ofOptions (o.setValue? f value)) rest
  | .going o, s :: rest =>
    if s == "--" then (if rest.isEmpty then .start o else .wrong)
    else readFrom (readArgument o s) rest

def Request.ofArguments (l : List String) : Request := readFrom (.going default) l

end Vigil.Program
