import DocStore.Cli.Grammar
/-
  DocStore.Cli.Parse — reading the arguments of the command line.

  Arguments are read left to right. An option may be written `--name value` or
  `--name=value`; a separate value may not start with `-`. A value written with `=` is
  settled at once; any other value, and the positional argument, is settled (checked for
  repeats and for its kind: `--to` a version, a path not empty) when the next known
  option or positional argument comes or the command's words end; a failure met first,
  such as an unknown option, wins. A word
  naming a subcommand enters it even while an option waits for its value; the waiting
  option then fails once the subcommand is read. `--help` (or `-h`) shows the help of
  the command reached and `--version` (`-V`, at the top) the version. A command with
  subcommands reached with nothing after it shows its help as an error; reached with
  only options, it asks for a subcommand.

  Refusals follow one layout: `error: WHAT`, then tips, then the usage, then a pointer to
  `--help`, all ending with exit code 2. The usage is the command's plain one, or, where
  an error concerns what was given, one that names the options given.
-/

namespace DocStore.Cli

/-- What the program is asked to do. -/
inductive Command where
  | init
  | status
  | validate
  | check (target : Option Nat)
  | run (target : Option Nat) (noBackup forceValidation : Bool)
  | rollback (backup : Option String)
  | list
  | history
  | exportTo (path : String) (force : Bool)
  | importFrom (path : String)
  deriving Repr, Inhabited

/-- A parsed command line. -/
structure Invocation where
  store : Option String := none
  debug : Bool := false
  command : Command
  deriving Repr, Inhabited

/-- A run that ends before doing anything: text for standard output or standard error,
and the exit code. -/
structure Exit where
  code : Nat
  stdout : String := ""
  stderr : String := ""
  deriving Repr, Inhabited

/-- A refusal in the usual layout. -/
def refusal (what : String) (tips : List String) (usageLine : Option String) : Exit :=
  { code := 2, stderr := "error: " ++ what ++ "\n" ++
      (if tips.isEmpty then "" else "\n" ++ String.join (tips.map fun t => "  tip: " ++ t ++ "\n")) ++
      (match usageLine with | some u => "\nUsage: " ++ u ++ "\n" | none => "") ++
      "\nFor more information, try '--help'.\n" }

/-- A word given to a command and not yet settled: an option, with its value once one
came, or the value of the positional argument. -/
inductive Pending where
  | option (flag : Flag) (value : Option String)
  | positional (value : String)
  deriving Repr, Inhabited

/-- What settling a pending word adds: the options settled at the command, the option's
value, and the positional argument. -/
structure Settled where
  here : List String
  value : Option (String × String) := none
  positional : Option String := none

/-- A command above the one being read, with what it still has to settle. -/
structure Level where
  path : List String
  spec : Spec
  here : List String
  pending : Option Pending
  deriving Repr, Inhabited

/-- Where parsing stands: the command reached, the option values settled for it and
above it, its positional argument, the option it has not settled yet, and the commands
above it. -/
structure Reading where
  path : List String := []
  spec : Spec
  /-- Options settled, by long name; of two values for one option the later counts. -/
  values : List (String × String) := []
  /-- Options settled at the current command, in the order given. -/
  here : List String := []
  positional : Option String := none
  /-- After `--`, every word is positional. -/
  rawOnly : Bool := false
  pending : Option Pending := none
  /-- The commands above, nearest first. -/
  above : List Level := []

/-- A version number: the text read as a signed 64-bit integer (optional sign, digits),
then checked to lie in the range of an unsigned 32-bit version. -/
def readVersion (raw : String) : Except String Nat :=
  let cs := raw.toList
  let (neg, digits) := match cs with
    | '-' :: ds => (true, ds)
    | '+' :: ds => (false, ds)
    | ds => (false, ds)
  if cs.isEmpty then throw "cannot parse integer from empty string"
  else if digits.isEmpty || !digits.all Char.isDigit then throw "invalid digit found in string"
  else
    let n := digits.foldl (fun acc c => acc * 10 + (c.toNat - '0'.toNat)) 0
    if !neg && n > 9223372036854775807 then throw "number too large to fit in target type"
    else if neg && n > 9223372036854775808 then throw "number too small to fit in target type"
    else if neg && n > 0 then throw ("-" ++ toString n ++ " is not in 0..=4294967295")
    else if n > 4294967295 then throw (toString n ++ " is not in 0..=4294967295")
    else pure n

/-- Whether a word starts a new option rather than being a value. -/
def isOptionWord (w : String) : Bool := w.startsWith "-" && w != "-"

def Reading.usageLine (r : Reading) : String := usage r.path r.spec

/-- The usage line that names what was given: the command, the options `used` (once
each, in order), then its required positional argument and its subcommand. -/
def usageWith (path : List String) (s : Spec) (used : List String) : String :=
  let flags := declaredFlags path s
  let once := used.foldl (fun acc l => if acc.contains l then acc else acc ++ [l]) []
  let shown := once.filterMap fun l => (flags.find? (·.long == l)).map (·.display)
  commandName path ++ String.join (shown.map (" " ++ ·)) ++
    (match s.positional with
      | some v => " <" ++ v ++ ">"
      | none => "") ++ (if s.subs.isEmpty then "" else " <COMMAND>")

/-- An argument named `shown` that needs a value and got none, or an empty path. -/
def emptyValue (shown : String) : Exit :=
  refusal ("a value is required for '" ++ shown ++ "' but none was supplied") [] none

/-- Settle the pending word of the command at `path`. An option needs a value, may be
given once, and its value must be of its kind; the positional argument, a path, may not
be empty. -/
def settle (path : List String) (s : Spec) (here : List String) : Option Pending → Except Exit Settled
  | none => pure { here }
  | some (.option f none) => throw (emptyValue f.display)
  | some (.option f (some v)) => do
    if here.contains f.long then
      throw (refusal ("the argument '" ++ f.display ++ "' cannot be used multiple times") [] (some (usage path s)))
    match f.kind with
    | .version =>
      match readVersion v with
      | .error why => throw (refusal ("invalid value '" ++ v ++ "' for '" ++ f.display ++ "': " ++ why) [] none)
      | .ok _ => pure ()
    | .path => if v.isEmpty then throw (emptyValue f.display)
    | .text => pure ()
    pure { here := here ++ [f.long], value := some (f.long, v) }
  | some (.positional v) =>
    if v.isEmpty then throw (emptyValue ("<" ++ (s.positional.getD "") ++ ">"))
    else pure { here, positional := some v }

/-- Settle the current command's pending word. -/
def Reading.settle (r : Reading) : Except Exit Reading := do
  let done ← DocStore.Cli.settle r.path r.spec r.here r.pending
  pure { r with here := done.here, pending := none, values := r.values ++ done.value.toList,
                positional := done.positional.orElse fun _ => r.positional }

/-- The options the current command holds when settling its pending word may fail
unnoticed: a repeated option drops out, one that got a value stays. -/
def Reading.settledLoosely (r : Reading) : List String :=
  match r.pending with
  | some (.option f (some _)) => if r.here.contains f.long then r.here.erase f.long else r.here ++ [f.long]
  | _ => r.here

/-- Whether the current command holds its positional argument, settled or not. -/
def Reading.hasPositional (r : Reading) : Bool :=
  r.positional.isSome || match r.pending with
    | some (.positional _) => true
    | _ => false

/-- Record an option that takes no value, after settling the pending one. -/
def Reading.mark (r : Reading) (f : Flag) : Except Exit Reading := do
  let r ← r.settle
  if r.here.contains f.long then
    throw (refusal ("the argument '" ++ f.display ++ "' cannot be used multiple times") [] (some r.usageLine))
  pure { r with here := r.here ++ [f.long], values := r.values ++ [(f.long, "")] }

/-- A subcommand named later on the line that has an option like `name`, with that
option; the one named first wins. -/
def laterSuggestion (r : Reading) (name : String) (rest : List String) : Option (String × String) :=
  let found := (subNames r.spec).filterMap fun sub => do
    let s ← specAt (r.path ++ [sub])
    let option ← (suggestions name ((declaredFlags (r.path ++ [sub]) s).map (·.long))).getLast?
    let place ← rest.findIdx? (· == sub)
    pure (place, sub, option)
  let first := found.foldl (fun best x => match best with
    | some b => if x.1 < b.1 then some x else some b
    | none => some x) none
  first.map fun (_, sub, option) => (sub, option)

/-- An unknown option `--name`: the most similar option of the command is suggested and
shown in the usage line, else one of a subcommand named later, else (for a command with a
positional argument) how to pass the word as a value. -/
def unknownLong (r : Reading) (name : String) (rest : List String) : Exit :=
  let here := r.settledLoosely
  let what := "unexpected argument '--" ++ name ++ "' found"
  let plain := if here.isEmpty && !r.hasPositional then r.usageLine else usageWith r.path r.spec here
  match (suggestions name ((declaredFlags r.path r.spec).map (·.long))).getLast? with
  | some similar =>
    refusal what ["a similar argument exists: '--" ++ similar ++ "'"] (some (usageWith r.path r.spec (here ++ [similar])))
  | none =>
    match laterSuggestion r name rest with
    | some (sub, option) => refusal what ["'" ++ sub ++ " --" ++ option ++ "' exists"] (some plain)
    | none =>
      let tips := if r.spec.positional.isSome then ["to pass '--" ++ name ++ "' as a value, use '-- --" ++ name ++ "'"] else []
      refusal what tips (some plain)

/-- An unknown short option: only its first letter is named. -/
def unknownShort (r : Reading) (c : Char) : Exit :=
  let word := "-" ++ String.singleton c
  refusal ("unexpected argument '" ++ word ++ "' found")
    (if r.spec.positional.isSome then ["to pass '" ++ word ++ "' as a value, use '-- " ++ word ++ "'"] else [])
    (some r.usageLine)

/-- Enter subcommand `name` of the current command, which keeps its pending option. -/
def Reading.enter (r : Reading) (name : String) (s : Spec) : Reading :=
  { r with path := r.path ++ [name], spec := s, here := [], positional := none, pending := none,
           above := ⟨r.path, r.spec, r.here, r.pending⟩ :: r.above }

/-- The help of the command at the end of `names`, below `path`. -/
def helpFor (path : List String) : List String → Except Exit Exit
  | [] => pure { code := 0, stdout := helpText path ((specAt path).getD {}) }
  | n :: rest =>
    let s := (specAt path).getD {}
    if n == "help" && !s.subs.isEmpty then
      match rest with
      | [] => pure { code := 0, stdout := helpCommandText path }
      | m :: _ =>
        throw { code := 2, stderr := "error: unrecognized subcommand '" ++ m ++ "'\n\nUsage: " ++
          commandName (path ++ ["help"]) ++ " [COMMAND]...\n" }
    else
      match specAt (path ++ [n]) with
      | some _ => helpFor (path ++ [n]) rest
      | none => throw (refusal ("unrecognized subcommand '" ++ n ++ "'") [] (some (usage path s)))

/-- A word that is neither an option nor a subcommand's name: the command's positional
argument, or else refused. -/
def Reading.plain (r : Reading) (w : String) : Except Exit Reading :=
  if !r.spec.subs.isEmpty then
    let tips := match suggestions w (subNames r.spec) with
      | [] => []
      | [one] => ["a similar subcommand exists: '" ++ one ++ "'"]
      | many => ["some similar subcommands exist: " ++ ", ".intercalate (many.map fun n => "'" ++ n ++ "'")]
    throw (refusal ("unrecognized subcommand '" ++ w ++ "'") tips (some r.usageLine))
  else if r.spec.positional.isSome && !r.hasPositional then do
    let r ← r.settle
    pure { r with pending := some (.positional w) }
  else throw (refusal ("unexpected argument '" ++ w ++ "' found") [] (some r.usageLine))

/-- An option word `--name` or `--name=value`. -/
def Reading.long (r : Reading) (w : String) (rest : List String) : Except Exit (Reading ⊕ Exit) := do
  let body := (w.drop 2).toString
  let (name, inline) := match body.splitOn "=" with
    | n :: v :: more => (n, some ("=".intercalate (v :: more)))
    | _ => (body, none)
  match (declaredFlags r.path r.spec).find? (·.long == name) with
  | none => throw (unknownLong r name rest)
  | some f =>
    match f.value, inline with
    | none, some v =>
      throw (refusal ("unexpected value '" ++ v ++ "' for '" ++ f.display ++ "' found; no more were expected") []
        (some (usageWith r.path r.spec (r.here ++ [f.long]))))
    | none, none =>
      if f.long == "help" then
        let r ← r.settle
        pure (.inr { code := 0, stdout := helpText r.path r.spec })
      else if f.long == "version" then
        let _ ← r.settle
        pure (.inr { code := 0, stdout := versionText })
      else pure (.inl (← r.mark f))
    | some _, some v =>
      let r ← r.settle
      pure (.inl (← { r with pending := some (.option f (some v)) }.settle))
    | some _, none =>
      let r ← r.settle
      pure (.inl { r with pending := some (.option f none) })

/-- A short option word: its first letter decides. -/
def Reading.short (r : Reading) (w : String) : Except Exit (Reading ⊕ Exit) := do
  match w.toList with
  | _ :: c :: _ =>
    if c == 'h' then
      let r ← r.settle
      pure (.inr { code := 0, stdout := helpText r.path r.spec })
    else if c == 'V' && r.path.isEmpty then
      let _ ← r.settle
      pure (.inr { code := 0, stdout := versionText })
    else throw (unknownShort r c)
  | _ => throw (unknownShort r '-')

/-- Read the words of the command line. A subcommand's name enters it, even while an
option waits for its value; a word after an option that waits is its value. -/
def readWords (r : Reading) : List String → Except Exit (Reading ⊕ Exit)
  | [] => pure (.inl r)
  | w :: rest =>
    match specAt (r.path ++ [w]), (subNames r.spec).contains w with
    | some s, true =>
      if r.rawOnly then
        throw (refusal ("unexpected argument '" ++ w ++ "' found")
          ["subcommand '" ++ w ++ "' exists; to use it, remove the '--' before it"] (some r.usageLine))
      else readWords (r.enter w s) rest
    | _, true =>
      if r.rawOnly then
        throw (refusal ("unexpected argument '" ++ w ++ "' found")
          ["subcommand '" ++ w ++ "' exists; to use it, remove the '--' before it"] (some r.usageLine))
      else do pure (.inr (← helpFor r.path rest))
    | _, false =>
      if r.rawOnly then do readWords (← r.plain w) rest
      else if w == "--" then readWords { r with rawOnly := true } rest
      else if w.startsWith "--" then do
        match ← r.long w rest with
        | .inl r => readWords r rest
        | .inr e => pure (.inr e)
      else if isOptionWord w then r.short w
      else match r.pending with
        | some (.option f none) => readWords { r with pending := some (.option f (some w)) } rest
        | _ => do readWords (← r.plain w) rest

/-- The value of an option, the latest settled. -/
def Reading.value? (r : Reading) (long : String) : Option String :=
  ((r.values.filter (·.1 == long)).getLast?).map (·.2)

def Reading.flag (r : Reading) (long : String) : Bool := (r.value? long).isSome

/-- The command a finished reading names. The current command settles its pending
option, then must have a subcommand or its positional argument; then the commands above
settle theirs, nearest first. -/
def Reading.finish (r : Reading) : Except Exit Invocation := do
  let r ← r.settle
  if !r.spec.subs.isEmpty then
    if r.here.isEmpty then throw { code := 2, stderr := helpText r.path r.spec }
    throw { code := 2, stderr := "error: '" ++ commandName r.path ++ "' requires a subcommand but one was not provided\n" ++
      "  [subcommands: " ++ ", ".intercalate (subNames r.spec) ++ "]\n\nUsage: " ++ r.usageLine ++
      "\n\nFor more information, try '--help'.\n" }
  let path ← match r.spec.positional, r.positional with
    | some v, none => throw (refusal ("the following required arguments were not provided:\n  <" ++ v ++ ">") []
        (some (usageWith r.path r.spec r.here)))
    | _, p => pure (p.getD "")
  let values ← r.above.foldlM (fun vals lv => do
    let done ← DocStore.Cli.settle lv.path lv.spec lv.here lv.pending
    pure (done.value.toList ++ vals)) r.values
  let r := { r with values }
  let target := ((r.value? "to").bind fun v => (readVersion v).toOption)
  let command ← match r.path with
    | ["init"] => pure Command.init
    | ["status"] => pure .status
    | ["validate"] => pure .validate
    | ["migrate", "check"] => pure (.check target)
    | ["migrate", "run"] => pure (.run target (r.flag "no-backup") (r.flag "force-validation"))
    | ["migrate", "rollback"] => pure (.rollback (r.value? "backup"))
    | ["migrate", "list"] => pure .list
    | ["migrate", "history"] => pure .history
    | ["export"] => pure (.exportTo path (r.flag "force"))
    | _ => pure (.importFrom path)
  pure { store := r.value? "store", debug := r.flag "debug", command }

/-- Read a command line (without the program's name). -/
def parse (args : List String) : Except Exit Invocation := do
  match ← readWords { spec := (specAt []).getD {} } args with
  | .inl r => r.finish
  | .inr e => throw e

end DocStore.Cli
