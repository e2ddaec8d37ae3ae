import BroadcastGuide.Numeral.Real

/-!
The command line of the guide. Long options may be cut short where that leaves no doubt, short ones
without a value may be joined, and a value may follow its option in the same word.
-/

namespace BroadcastGuide.CommandLine

inductive Switch
  | help | version | input | output | timeout | offset | chanidents | channelsConf
  | invalidDates | updates | encoding | versionPolicy | transport | silent | dashboard | verbose
  | nowNext | nowNextActual | nowNextOther
  deriving DecidableEq, Repr

namespace Switch

inductive Arity
  | none
  | one
  | optional
  deriving DecidableEq, Repr

def arity : Switch → Arity
  | input | output | timeout | offset | channelsConf | encoding | versionPolicy => .one
  | chanidents => .optional
  | _ => .none

def names : List (String × Switch) :=
  [("-h", help), ("--help", help), ("--version", version), ("-i", input), ("--input", input),
    ("-f", output), ("--output", output), ("-t", timeout), ("--timeout", timeout),
    ("-o", offset), ("--offset", offset), ("-c", chanidents), ("--chanidents", chanidents),
    ("--channels-conf", channelsConf), ("-d", invalidDates), ("--invalid-dates", invalidDates),
    ("-u", updates), ("--updates", updates), ("-e", encoding), ("--encoding", encoding),
    ("--version-policy", versionPolicy), ("--ts", transport), ("-s", silent),
    ("--silent", silent), ("--dashboard", dashboard), ("-v", verbose), ("--verbose", verbose),
    ("-n", nowNext), ("-m", nowNextActual), ("-p", nowNextOther)]

def named? (s : List Char) : Option Switch := names.lookup (String.ofList s)

end Switch

inductive Word
  | value (text : String)
  /-- The word that makes all words after it values. -/
  | terminator
  | switch (s : Switch)
  /-- An option with text in the same word, after an equals sign or at once. -/
  | withText (s : Switch) (isLong : Bool) (text : List Char)
  | unknown
  deriving DecidableEq, Repr

structure Ambiguous where
  deriving DecidableEq, Repr

def atEquals (s : List Char) : List Char × Option (List Char) :=
  match s.dropWhile (· ≠ '=') with
  | [] => (s, none)
  | _ :: text => (s.takeWhile (· ≠ '='), some text)

/-- Digits, or digits after a point, behind a minus sign. -/
def looksNegative (s : List Char) : Bool :=
  match s with
  | '-' :: rest =>
    let isDigit := fun c => (Text.decimalDigit? c).isSome
    let rest := if rest.getLast? = some '\n' then rest.dropLast else rest
    match rest.dropWhile isDigit with
    | [] => !rest.isEmpty
    | '.' :: fraction => !fraction.isEmpty && fraction.all isDigit
    | _ => false
  | _ => false

/-- The option that a word which is no exact name stands for. -/
def abbreviated (s : List Char) : Except Ambiguous (Option Word) :=
  match s with
  | '-' :: '-' :: _ =>
    let (front, text) := atEquals s
    match Switch.names.filter fun entry => front.isPrefixOf entry.1.toList with
    | [] => .ok none
    | [(_, known)] =>
      match text with
      | none => .ok (some (.switch known))
      | some text => .ok (some (.withText known true text))
    | _ => .error {}
  | '-' :: c :: text => .ok ((Switch.named? ['-', c]).map fun s => .withText s false text)
  | _ => .ok none

def Word.ofString (word : String) : Except Ambiguous Word :=
  let s := word.toList
  if s.head? ≠ some '-' then .ok (.value word)
  else
    match Switch.named? s with
    | some known => .ok (.switch known)
    | none =>
      if s.length = 1 then .ok (.value word)
      else
        let (front, text) := atEquals s
        match text.bind fun text => (Switch.named? front).map fun known => (known, text) with
        | some (known, text) => .ok (.withText known ("--".toList.isPrefixOf front) text)
        | none =>
          match abbreviated s with
          | .error e => .error e
          | .ok (some w) => .ok w
          | .ok none =>
            if looksNegative s || s.contains ' ' then .ok (.value word) else .ok .unknown

def Word.ofStrings : List String → Except Ambiguous (List Word)
  | [] => .ok []
  | word :: rest =>
    if word = "--" then .ok (.terminator :: rest.map .value)
    else do
      let first ← Word.ofString word
      let others ← Word.ofStrings rest
      return first :: others

structure Arguments where
  input : String
  output : Option String
  timeout : Numeral.RealLiteral
  offset : Int
  chanidents : Option String
  channelsConf : String
  invalidDates : Bool
  updates : Bool
  encoding : Option String
  versionPolicy : String
  transport : Bool
  silent : Bool
  dashboard : Bool
  verbosity : Nat
  tables : Option Switch
  /-- Options that were given last without the value they need. -/
  lacking : List Switch
  deriving DecidableEq, Repr

namespace Arguments

def standard : Arguments :=
  { input := "-", output := none, timeout := .finite false [1, 0] 0, offset := 0
    chanidents := none, channelsConf := "channels.conf", invalidDates := false, updates := false
    encoding := none, versionPolicy := "direct", transport := false, silent := false
    dashboard := false, verbosity := 0, tables := none, lacking := [] }

def lacks (a : Arguments) (s : Switch) : Bool := a.lacking.contains s

end Arguments

/-- Why the command ends before it starts. -/
inductive Stop
  | misuse
  | help
  | version
  deriving DecidableEq, Repr

namespace Arguments

/-- Chooses tables; only one choice is allowed. -/
def choose (a : Arguments) (s : Switch) : Except Stop Arguments :=
  match a.tables with
  | none => .ok { a with tables := some s }
  | some chosen => if chosen = s then .ok a else .error .misuse

def set (a : Arguments) (s : Switch) (value : String) : Except Stop Arguments :=
  match s with
  | .input => .ok { a with input := value }
  | .output => .ok { a with output := some value }
  | .timeout =>
    match Numeral.real? value.toList with
    | some t => .ok { a with timeout := t }
    | none => .error .misuse
  | .offset =>
    match Numeral.decimal? value.toList with
    | some n => .ok { a with offset := n }
    | none => .error .misuse
  | .chanidents => .ok { a with chanidents := some value }
  | .channelsConf => .ok { a with channelsConf := value }
  | .encoding => .ok { a with encoding := some value }
  | .versionPolicy =>
    if value = "direct" ∨ value = "serial" then .ok { a with versionPolicy := value }
    else .error .misuse
  | _ => .ok a

def standardChanidents : String := "chanidents"

/-- Takes an option in that has no value, though it may need one. -/
def mark (a : Arguments) (s : Switch) : Except Stop Arguments :=
  match s with
  | .help => .error .help
  | .version => .error .version
  | .output => .ok { a with output := none }
  | .chanidents => .ok { a with chanidents := some standardChanidents }
  | .invalidDates => .ok { a with invalidDates := true }
  | .updates => .ok { a with updates := true }
  | .transport => .ok { a with transport := true }
  | .silent => .ok { a with silent := true }
  | .dashboard => .ok { a with dashboard := true }
  | .verbose => .ok { a with verbosity := a.verbosity + 1 }
  | .nowNext | .nowNextActual | .nowNextOther => a.choose s
  | .input | .timeout | .offset | .channelsConf | .encoding | .versionPolicy =>
    .ok { a with lacking := s :: a.lacking }

/-- Takes an option in. What is given last for an option counts. -/
def take (a : Arguments) (s : Switch) (value : Option String) : Except Stop Arguments :=
  let a := { a with lacking := a.lacking.filter (· ≠ s) }
  match value with
  | some value => a.set s value
  | none => a.mark s

def takeAll (a : Arguments) : List (Switch × Option String) → Except Stop Arguments
  | [] => .ok a
  | (s, value) :: rest =>
    match a.take s value with
    | .error e => .error e
    | .ok next => takeAll next rest

end Arguments

structure Joined where
  /-- Options that are complete, with their values. -/
  complete : List (Switch × Option String)
  /-- An option at the end, whose value may be in the next word. -/
  last : Option Switch
  deriving DecidableEq, Repr

/-- A value in the option's own word. There a lone double dash is no value. -/
def ownValue (text : List Char) : Option String :=
  if text = ['-', '-'] then none else some (String.ofList text)

/-- Takes a word apart in which text follows an option. An option with a value takes all of the
text; a short one without is followed by others, one for each character. -/
def Joined.ofText (s : Switch) (isLong : Bool) : List Char → Except Stop Joined
  | [] => if s.arity = .none then .error .misuse else .ok ⟨[(s, ownValue [])], none⟩
  | c :: rest =>
    if s.arity ≠ .none then .ok ⟨[(s, ownValue (c :: rest))], none⟩
    else if isLong then .error .misuse
    else
      match Switch.named? ['-', c], rest with
      | none, _ => .error .misuse
      | some next, [] => .ok ⟨[(s, none)], some next⟩
      | some next, d :: text => (ofText next false (d :: text)).map fun j =>
          { j with complete := (s, none) :: j.complete }

/-- The value of an option that has none in its own word, and whether it is the next word. -/
def nextValue (s : Switch) (following : Option Word) : Except Stop (Option String × Bool) :=
  match s.arity, following with
  | .none, _ => .ok (none, false)
  | _, some (.value text) => .ok (some text, true)
  | .optional, _ => .ok (none, false)
  | .one, _ => .error .misuse

/-- Takes the options of a word in, once all of them are found to be complete, and tells whether
the next word is used up. -/
def takeWord (a : Arguments) (word : Joined) (following : Option Word) :
    Except Stop (Arguments × Bool) :=
  match word.last with
  | none => (a.takeAll word.complete).map (·, false)
  | some last =>
    match nextValue last following with
    | .error e => .error e
    | .ok (value, isUsed) => (a.takeAll (word.complete ++ [(last, value)])).map (·, isUsed)

def Word.joined : Word → Except Stop (Option Joined)
  | .switch s => .ok (some ⟨[], some s⟩)
  | .withText s isLong text => (Joined.ofText s isLong text).map some
  | .value _ | .terminator | .unknown => .ok none

/-- Reads words from the left. Words that belong to no option are counted as a misuse at the end. -/
def readWords (a : Arguments) (stray : Bool) : List Word → Except Stop Arguments
  | [] => if stray then .error .misuse else .ok a
  | word :: rest =>
    match word.joined with
    | .error e => .error e
    | .ok none => readWords a true rest
    | .ok (some joined) =>
      match takeWord a joined rest.head? with
      | .error e => .error e
      | .ok (next, false) => readWords next stray rest
      | .ok (next, true) =>
        match rest with
        | [] => readWords next stray []
        | _ :: rest => readWords next stray rest

/-- Reads a command line. All words are judged by their form before any is taken in. -/
def Arguments.ofWords (words : List String) : Except Stop Arguments :=
  match Word.ofStrings words with
  | .error _ => .error .misuse
  | .ok words => readWords .standard false words

end BroadcastGuide.CommandLine
