import KeyValueClient.Decimal.Integer

/-!
# Command-line options

The command line names a server, a database, a password and an encoding, and then
the command with its arguments.  Options may stand before or after these words; after
`--` everything is a word.  An option given twice, an unknown one, and a value that
looks like an option are misuse, as is a line without a word.

Main results:

- Theorem `CommandLine.parse_words`: words that do not look like options are taken as
  they are.
-/

namespace KeyValueClient.CommandLine

/-- What the command line says. -/
structure Options where
  server : Option String
  database : Option UInt32
  password : Option String
  /-- Encode every request as a counted list. -/
  counted : Bool
  /-- The command and its arguments. -/
  words : List String
deriving DecidableEq, Repr

/-- What a command line asks for. -/
inductive Invocation where
  /-- Send a command. -/
  | send (options : Options)
  /-- Print the version. -/
  | version
  /-- Print the help text. -/
  | help
  | misuse
deriving DecidableEq, Repr

/-! ## Option names -/

/-- The options that take a value. -/
inductive Setting where
  | server
  | database
  | password
deriving DecidableEq, Repr

/-- What an option name stands for. -/
inductive OptionName where
  | setting (s : Setting)
  | counted
  | version
  | help
deriving DecidableEq, Repr

/-- The option with this long name. -/
def OptionName.ofLong? : String → Option OptionName
  | "server" => some (.setting .server)
  | "db" => some (.setting .database)
  | "password" => some (.setting .password)
  | "multi-bulk" => some .counted
  | "version" => some .version
  | "help" => some .help
  | _ => none

/-- The option with this short name. -/
def OptionName.ofShort? : Char → Option OptionName
  | 's' => some (.setting .server)
  | 'd' => some (.setting .database)
  | 'p' => some (.setting .password)
  | 'V' => some .version
  | 'h' => some .help
  | _ => none

/-! ## Values -/

/-- The database index that a value spells: an optional sign and digits, within 32
unsigned bits. -/
def readIndex? (value : String) : Option UInt32 :=
  let (negative, digits) := Decimal.splitSign (Bytes.ofText value)
  let n := Decimal.signed negative digits
  if digits.isEmpty || !digits.all Decimal.isDigit then none
  else if 0 ≤ n ∧ n < UInt32.size then some (UInt32.ofNat n.toNat)
  else none

/-- Nothing said yet. -/
def Options.empty : Options :=
  ⟨none, none, none, false, []⟩

/-- Set an option that takes a value, unless it was set before or the value does not
fit it. -/
def Options.set? (setting : Setting) (value : String) (o : Options) : Option Options :=
  match setting with
  | .server => if o.server.isSome then none else some { o with server := some value }
  | .password => if o.password.isSome then none else some { o with password := some value }
  | .database =>
    if o.database.isSome then none
    else (readIndex? value).map fun index => { o with database := some index }

/-- Ask for the counted encoding, unless that was done before. -/
def Options.setCounted? (o : Options) : Option Options :=
  if o.counted then none else some { o with counted := true }

/-! ## Arguments -/

/-- Where the reading of one argument leads. -/
inductive Progress where
  /-- The argument is done with. -/
  | done (o : Options)
  /-- The value of an option is the next argument. -/
  | needsValue (setting : Setting) (o : Options)
  /-- The rest of the line does not matter. -/
  | stop (i : Invocation)

/-- Go on if the option could be set. -/
def Progress.ofOption : Option Options → Progress
  | some o => .done o
  | none => .stop .misuse

/-- The argument stands for options: it begins with a dash and goes on. -/
def looksLikeOption (argument : String) : Bool :=
  match argument.toList with
  | '-' :: _ :: _ => true
  | _ => false

/-- A long option, with the value after its equals sign if there is one. -/
def readLong (name : String) (value : Option String) (o : Options) : Progress :=
  match OptionName.ofLong? name, value with
  | some (.setting setting), some value => .ofOption (o.set? setting value)
  | some (.setting setting), none => .needsValue setting o
  | some .counted, none => .ofOption o.setCounted?
  | some .version, none => .stop .version
  | some .help, none => .stop .help
  | _, _ => .stop .misuse

/-- A cluster of short options.  What follows an option that takes a value is its
value, with or without an equals sign in front. -/
def readCluster : List Char → Options → Progress
  | [], o => .done o
  | c :: rest, o =>
    match OptionName.ofShort? c with
    | some (.setting setting) =>
      match rest with
      | [] => .needsValue setting o
      | '=' :: value => .ofOption (o.set? setting (String.ofList value))
      | value => .ofOption (o.set? setting (String.ofList value))
    | some .counted => match o.setCounted? with
      | some o => readCluster rest o
      | none => .stop .misuse
    | some .version => .stop .version
    | some .help => .stop .help
    | none => .stop .misuse

/-- The name of a long option, and the value after its equals sign. -/
def splitLong (text : List Char) : String × Option String :=
  let (name, rest) := text.span (· != '=')
  (String.ofList name,
    match rest with
    | [] => none
    | _ :: value => some (String.ofList value))

/-- Read one argument. -/
def readArgument (argument : String) (o : Options) : Progress :=
  match argument.toList with
  | '-' :: '-' :: text =>
    let (name, value) := splitLong text
    readLong name value o
  | '-' :: c :: rest => readCluster (c :: rest) o
  | _ => .done { o with words := o.words ++ [argument] }

/-! ## Whole lines -/

/-- Send the command, if there is one. -/
def conclude (o : Options) : Invocation :=
  if o.words.isEmpty then .misuse else .send o

/-- Read a command line; `pending` is an option whose value comes next. -/
def parseFrom (pending : Option Setting) : List String → Options → Invocation
  | [], o => if pending.isSome then .misuse else conclude o
  | argument :: rest, o =>
    match pending with
    | some setting =>
      if looksLikeOption argument then .misuse
      else match o.set? setting argument with
        | some o => parseFrom none rest o
        | none => .misuse
    | none =>
      if argument = "--" then conclude { o with words := o.words ++ rest }
      else match readArgument argument o with
        | .done o => parseFrom none rest o
        | .needsValue setting o => parseFrom (some setting) rest o
        | .stop invocation => invocation

/-- Read a command line. -/
def parse (arguments : List String) : Invocation :=
  parseFrom none arguments .empty

/-! ## Laws -/

theorem readArgument_word {argument : String} (h : looksLikeOption argument = false)
    (o : Options) : readArgument argument o = .done { o with words := o.words ++ [argument] } := by
  unfold readArgument
  unfold looksLikeOption at h
  split
  · rename_i text htext
    simp [htext] at h
  · rename_i c rest _ htext
    simp [htext] at h
  · rfl

theorem parseFrom_words {words : List String} (h : ∀ w ∈ words, looksLikeOption w = false)
    (o : Options) : parseFrom none words o = conclude { o with words := o.words ++ words } := by
  induction words generalizing o with
  | nil => simp [parseFrom]
  | cons word rest ih =>
    have hword : looksLikeOption word = false := h word List.mem_cons_self
    have hrest : ∀ w ∈ rest, looksLikeOption w = false :=
      fun w hw => h w (List.mem_cons_of_mem word hw)
    have hdash : word ≠ "--" := by
      rintro rfl
      exact absurd hword (by decide)
    rw [parseFrom]
    simp [hdash, readArgument_word hword, ih hrest]

/-- Words that do not look like options are taken as they are. -/
theorem parse_words {words : List String} (hne : words ≠ [])
    (h : ∀ w ∈ words, looksLikeOption w = false) :
    parse words = .send { Options.empty with words := words } := by
  simp [parse, parseFrom_words h, conclude, Options.empty, hne]

end KeyValueClient.CommandLine
