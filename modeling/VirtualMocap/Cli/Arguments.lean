import VirtualMocap.Decimal.Read
import VirtualMocap.Text.Quoted
import VirtualMocap.Text.Digit

/-!
# Command-line arguments

A command line is read against a grammar of options and positional arguments
(`Grammar.parseKnown`), as the usual option parser for scripts reads it: long options by
any unique prefix, values after `=` or in the next argument, options and positionals
interleaved, and a command positional handing the rest to its own grammar. Errors end
the program with status 2; `-h` ends it with status 0.
-/

namespace VirtualMocap

namespace Cli

/-- How an argument's text is converted. -/
inductive Conversion where
  | text
  | int
  | float
  | path
  deriving DecidableEq, Repr

def Conversion.name : Conversion → String
  | .text => "str"
  | .int => "int"
  | .float => "float"
  | .path => "Path"

/-- A value read from the command line. -/
inductive ArgValue where
  | none
  | text (s : String)
  | int (n : Int)
  | float (x : Binary64)
  | path (s : String)
  | flag (b : Bool)
  /-- The empty list of values an option stores when the only argument it took was the
  separator `--`, which is removed from the arguments of an option. -/
  | noValues
  deriving Repr

/-- What an option does. -/
inductive Action where
  /-- Take one value, converted, and one of `choices` if they are given. -/
  | store (conversion : Conversion) (choices : List String)
  /-- Take no value and set a flag. -/
  | storeTrue
  /-- Show help and stop. -/
  | help
  deriving DecidableEq, Repr

/-- An option: its spellings, where its value goes, and what it does. -/
structure Opt where
  flags : List String
  dest : String
  action : Action
  deriving DecidableEq, Repr

/-- A positional argument. -/
inductive Positional where
  /-- One value, converted. -/
  | value (dest : String) (conversion : Conversion)
  /-- A command name and all arguments after it. -/
  | command (dest : String)
  deriving DecidableEq, Repr

def Positional.dest : Positional → String
  | .value d _ | .command d => d

/-- The grammar of one command level. -/
structure Grammar where
  prog : String
  opts : List Opt
  positionals : List Positional := []
  deriving Repr

/-- The end of the program: its exit status and the last line it wrote. -/
structure Exit where
  code : Nat
  message : String
  deriving DecidableEq, Repr

abbrev Namespace := List (String × ArgValue)

def Namespace.put (ns : Namespace) (dest : String) (v : ArgValue) : Namespace :=
  if ns.any (·.1 == dest) then ns.map fun kv => if kv.1 == dest then (dest, v) else kv
  else ns ++ [(dest, v)]

def Namespace.get (ns : Namespace) (dest : String) : ArgValue :=
  ((ns.find? (·.1 == dest)).map (·.2)).getD .none

def helpOpt : Opt := ⟨["-h", "--help"], "help", .help⟩

namespace Grammar

def allOpts (g : Grammar) : List Opt := helpOpt :: g.opts

def optionStrings (g : Grammar) : List (String × Opt) :=
  g.allOpts.flatMap fun o => o.flags.map fun f => (f, o)

def findOption (g : Grammar) (s : String) : Option Opt :=
  (g.optionStrings.find? (·.1 == s)).map (·.2)

def fail {α : Type} (g : Grammar) (message : String) : Except Exit α :=
  .error ⟨2, g.prog ++ ": error: " ++ message⟩

end Grammar

def Opt.name (o : Opt) : String := "/".intercalate o.flags

def negativeForm (cs : List Char) : Bool :=
  match cs with
  | '-' :: rest =>
    let whole := rest.takeWhile Text.isDecimalDigit
    match rest.drop whole.length with
    | [] => !whole.isEmpty
    | '.' :: frac => !frac.isEmpty && frac.all Text.isDecimalDigit
    | _ => false
  | _ => false

def looksNegative (s : String) : Bool :=
  let cs := s.toList
  negativeForm cs || (cs.getLast? == some '\n' && negativeForm cs.dropLast)

/-- What an argument is. -/
inductive Slot where
  | positional
  /-- The `--` that ends the options. -/
  | separator
  /-- An option: the option it names, if any, how it was spelled, and a value attached
  to it. -/
  | option (opt : Option Opt) (spelling : String) (attached : Option String)
  deriving DecidableEq, Repr

def Grammar.candidates (g : Grammar) (arg : String) : List (Opt × String × Option String) :=
  let cs := arg.toList
  match cs with
  | '-' :: '-' :: _ =>
    let (pfx, attached) := match arg.splitOn "=" with
      | [p] => (p, none)
      | p :: rest => (p, some ("=".intercalate rest))
      | [] => (arg, none)
    g.optionStrings.filterMap fun (s, o) => if s.startsWith pfx then some (o, s, attached) else none
  | '-' :: c :: rest =>
    let short := String.ofList ['-', c]
    g.optionStrings.filterMap fun (s, o) =>
      if s == short then some (o, s, some (String.ofList rest))
      else if s.startsWith arg then some (o, s, none)
      else none
  | _ => []

def Grammar.classify (g : Grammar) (arg : String) : Except Exit Slot :=
  match arg.toList with
  | [] => .ok .positional
  | c :: _ =>
    if c != '-' then .ok .positional
    else if let some o := g.findOption arg then .ok (.option (some o) arg none)
    else if arg.length == 1 then .ok .positional
    else
      let byEquals : Option Slot := match arg.splitOn "=" with
        | p :: rest@(_ :: _) =>
          (g.findOption p).map fun o => .option (some o) p (some ("=".intercalate rest))
        | _ => none
      match byEquals with
      | some slot => .ok slot
      | none =>
        match g.candidates arg with
        | [(o, s, attached)] => .ok (.option (some o) s attached)
        | _ :: _ :: _ =>
          let names := ", ".intercalate ((g.candidates arg).map (·.2.1))
          g.fail s!"ambiguous option: {arg} could match {names}"
        | [] =>
          if looksNegative arg then .ok .positional
          else if arg.contains ' ' then .ok .positional
          else .ok (.option none arg none)

def Grammar.classifyAll (g : Grammar) : List String → Except Exit (List Slot)
  | [] => .ok []
  | a :: rest =>
    if a == "--" then .ok (.separator :: rest.map fun _ => .positional)
    else do
      let s ← g.classify a
      return s :: (← g.classifyAll rest)

def Conversion.apply (c : Conversion) (s : String) : Option ArgValue :=
  match c with
  | .text => some (.text s)
  | .int => (Decimal.readInt 10 s).toOption.map .int
  | .float => (Decimal.readFloat? s).map .float
  | .path => some (.path s)

def Grammar.argumentError {α : Type} (g : Grammar) (name message : String) : Except Exit α :=
  g.fail s!"argument {name}: {message}"

def Grammar.convert (g : Grammar) (name : String) (c : Conversion) (choices : List String)
    (s : String) : Except Exit ArgValue :=
  match c.apply s with
  | none => g.argumentError name s!"invalid {c.name} value: {Text.quoted s}"
  | some v =>
    if choices.isEmpty || choices.contains s then .ok v
    else
      let listed := ", ".intercalate (choices.map Text.quoted)
      g.argumentError name s!"invalid choice: {Text.quoted s} (choose from {listed})"

/-- How many positional arguments each remaining positional takes from the pattern
`slots`, matching as many positionals as possible from the first, each greedily: a value
takes one argument and the separators around it, a command takes a name and all the
rest. -/
def matchPositionals (ps : List Positional) (slots : List Slot) : List Nat :=
  let rec go : List Positional → List Slot → List Nat
    | [], _ => []
    | p :: rest, slots =>
      let lead := (slots.takeWhile (· == .separator)).length
      match slots.drop lead with
      | .positional :: after =>
        match p with
        | .command _ => [slots.length]
        | .value .. =>
          let trail := (after.takeWhile (· == .separator)).length
          let n := lead + 1 + trail
          n :: go rest (slots.drop n)
      | _ => []
  go ps slots

/-- The state of a parse: values read, arguments nothing read, positionals left, and the
destinations seen. -/
structure Progress where
  ns : Namespace
  extras : List String := []
  positionals : List Positional
  seen : List String := []
  deriving Repr

def Opt.takesValue (o : Opt) : Bool :=
  match o.action with
  | .store .. => true
  | _ => false

def Grammar.defaults (g : Grammar) : Namespace :=
  (g.opts.map fun o => (o.dest, match o.action with
    | .storeTrue => ArgValue.flag false
    | _ => ArgValue.none)) ++ g.positionals.map fun p => (p.dest, ArgValue.none)

def dropSeparator : List String → List String
  | [] => []
  | a :: rest => if a == "--" then rest else a :: dropSeparator rest

def Grammar.takeOption (g : Grammar) (o : Opt) (args : List String) (p : Progress) :
    Except Exit Progress := do
  let p := { p with seen := p.seen ++ [o.dest] }
  match o.action with
  | .help => throw ⟨0, ""⟩
  | .storeTrue => return { p with ns := p.ns.put o.dest (.flag true) }
  | .store conversion choices =>
    match dropSeparator args with
    | [] => return { p with ns := p.ns.put o.dest .noValues }
    | [a] => return { p with ns := p.ns.put o.dest (← g.convert o.name conversion choices a) }
    | _ => g.argumentError o.name "expected one argument"

mutual

/-- Read arguments with a grammar, commands read with their own grammars at most `depth`
levels down: the values read, and the arguments nothing read. -/
def Grammar.parseKnown (g : Grammar) (commands : List (String × Grammar)) :
    Nat → List String → Except Exit (Namespace × List String)
  | 0, _ => .ok ([], [])
  | depth + 1, args => do
    let slots ← g.classifyAll args
    let optionAt := (List.range slots.length).filter fun i =>
      match slots[i]? with
      | some (.option ..) => true
      | _ => false
    let mut p : Progress := { ns := g.defaults, positionals := g.positionals }
    let mut unread : List String := []
    let mut start := 0
    for _ in [0:args.length + 1] do
      match optionAt.getLast? with
      | none => break
      | some last =>
        if start > last then break
        let next := (optionAt.find? (· ≥ start)).getD start
        if start != next then
          let (stop, p2, more) ← consumePositionals g commands depth args slots start p
          p := p2
          unread := unread ++ more
          if stop > start then
            start := stop
            continue
          start := stop
        if !optionAt.contains start then
          p := { p with extras := p.extras ++ ((args.drop start).take (next - start)) }
          start := next
        let (stop, p2) ← consumeOption g args slots start p
        p := p2
        start := stop
    let (stop, p2, more) ← consumePositionals g commands depth args slots start p
    p := { p2 with extras := p2.extras ++ args.drop stop }
    unread := unread ++ more
    let missing := (g.positionals.filter fun q => !p.seen.contains q.dest).map Positional.dest
    if !missing.isEmpty then
      g.fail ("the following arguments are required: " ++ ", ".intercalate missing)
    return (p.ns, p.extras ++ unread)

/-- Read the positionals that the arguments from `start` on can fill; the index after
them, the progress, and what commands left unread. -/
def consumePositionals (g : Grammar) (commands : List (String × Grammar)) (depth : Nat)
    (args : List String) (slots : List Slot) (start : Nat) (p : Progress) :
    Except Exit (Nat × Progress × List String) := do
  let counts := matchPositionals p.positionals (slots.drop start)
  let mut p := p
  let mut index := start
  let mut unread : List String := []
  for (q, n) in p.positionals.zip counts do
    let taken := (args.drop index).take n
    index := index + n
    p := { p with seen := p.seen ++ [q.dest] }
    match q with
    | .value dest conversion =>
      match dropSeparator taken with
      | [a] => p := { p with ns := p.ns.put dest (← g.convert dest conversion [] a) }
      | _ => pure ()
    | .command dest =>
      let name := taken.headD ""
      match commands.find? (·.1 == name) with
      | none =>
        let listed := ", ".intercalate (commands.map fun c => Text.quoted c.1)
        g.argumentError dest s!"invalid choice: {Text.quoted name} (choose from {listed})"
      | some (_, sub) =>
        let (subNs, subUnread) ← sub.parseKnown [] depth (taken.drop 1)
        p := { p with ns := subNs.foldl (fun ns kv => ns.put kv.1 kv.2) (p.ns.put dest (.text name)) }
        unread := unread ++ subUnread
  p := { p with positionals := p.positionals.drop counts.length }
  return (index, p, unread)

def consumeOption (g : Grammar) (args : List String) (slots : List Slot) (start : Nat)
    (p : Progress) : Except Exit (Nat × Progress) := do
  match slots[start]? with
  | some (.option none _ _) => return (start + 1, { p with extras := p.extras ++ (args.drop start).take 1 })
  | some (.option (some o) spelling attached) =>
    let mut current := o
    let mut currentSpelling := spelling
    let mut currentAttached := attached
    let mut taken : List (Opt × List String) := []
    let mut stop := start + 1
    for _ in [0:spelling.length + (attached.map String.length).getD 0 + 1] do
      match currentAttached with
      | some e =>
        if !current.takesValue then
          if currentSpelling.toList[1]? != some '-' && e != "" then
            taken := taken ++ [(current, [])]
            let next := String.ofList ['-', e.toList.headD ' ']
            let rest := String.ofList (e.toList.drop 1)
            match g.findOption next with
            | some o2 =>
              current := o2
              currentSpelling := next
              currentAttached := if rest.isEmpty then none else some rest
            | none => g.argumentError current.name s!"ignored explicit argument {Text.quoted e}"
          else g.argumentError current.name s!"ignored explicit argument {Text.quoted e}"
        else
          taken := taken ++ [(current, [e])]
          stop := start + 1
          break
      | none =>
        if current.takesValue then
          match slots[start + 1]? with
          | some .positional =>
            taken := taken ++ [(current, (args.drop (start + 1)).take 1)]
            stop := start + 2
          | _ => g.argumentError current.name "expected one argument"
        else
          taken := taken ++ [(current, [])]
          stop := start + 1
        break
    let mut p := p
    for (o, vals) in taken do
      p ← g.takeOption o vals p
    return (stop, p)
  | _ => return (start + 1, p)

end

/-- Read a whole command line: arguments nothing reads are an error. -/
def Grammar.parse (g : Grammar) (commands : List (String × Grammar)) (args : List String) :
    Except Exit Namespace := do
  let (ns, unread) ← g.parseKnown commands 3 args
  if !unread.isEmpty then g.fail ("unrecognized arguments: " ++ " ".intercalate unread)
  return ns

end Cli

end VirtualMocap
