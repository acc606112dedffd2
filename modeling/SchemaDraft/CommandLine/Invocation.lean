/-!
The arguments of the command line, read from left to right. Options for all commands stand before
the command. A word that starts with a hyphen is an option, unless two hyphens alone stood before
it, and every option may be given once. Reading ends early at the first mistake and at the first
word that asks for the version or for help.
-/

namespace SchemaDraft.CommandLine

inductive Request where
  | compile (paths : List String)
  | apply (paths : List String) (dryRun : Bool)
  | showIndex (name : String)
  deriving DecidableEq

/-- The files that a request is about. -/
def Request.paths : Request → List String
  | .compile paths | .apply paths _ => paths
  | .showIndex _ => []

structure Options where
  databaseUrl : Option String := none
  verbose : Bool := false
  deriving DecidableEq

structure Invocation where
  options : Options
  request : Request
  deriving DecidableEq

/-- What there is help about: all of the command line, or one command. -/
inductive Topic where
  | overview
  | compile
  | apply
  | showIndex
  | help
  deriving DecidableEq

/-- The command with this name. -/
def Topic.ofName? : String → Option Topic
  | "compile" => some .compile
  | "apply" => some .apply
  | "show-index" => some .showIndex
  | "help" => some .help
  | _ => none

/-- Why reading ends without a request. -/
inductive Stop where
  | usage
  | version
  | help (topic : Topic)
  deriving DecidableEq

def isOption (word : String) : Bool :=
  match word.toList with
  | '-' :: _ :: _ => true
  | _ => false

/-- Whether an option of a command asks for help about it. -/
def asksForHelp (word : String) : Bool :=
  match word.toList with
  | '-' :: 'h' :: _ => true
  | _ => word = "--help"

/-- The words after a command. -/
structure Operands where
  words : List String
  flag : Bool := false

/-- Adds words in front. -/
def Operands.after (o : Operands) (words : List String) : Operands :=
  { o with words := words ++ o.words }

/-- Reads the words after a command, all of which have to be acceptable. The flag, if the command
has one, may be given once; `given` tells whether it was. -/
def operands (topic : Topic) (flag : Option String) (accept : String → Bool) (given : Bool) :
    List String → Except Stop Operands
  | [] => .ok { words := [], flag := given }
  | word :: rest =>
    if word = "--" then
      if rest.all accept then .ok { words := rest, flag := given } else .error .usage
    else if some word = flag then
      if given then .error .usage else operands topic flag accept true rest
    else if isOption word then
      .error (if asksForHelp word then .help topic else .usage)
    else if accept word then (operands topic flag accept given rest).map (·.after [word])
    else .error .usage

def isPath (word : String) : Bool := !word.isEmpty

/-- Reads the words after a command that works on files. -/
def paths (topic : Topic) (flag : Option String) (words : List String) : Except Stop Operands := do
  let o ← operands topic flag isPath false words
  if o.words.isEmpty then throw .usage
  return o

/-- Reads the words after a command that works on one name. -/
def name : List String → Except Stop String
  | [] => .error .usage
  | word :: rest =>
    if word = "--" then
      match rest with
      | [name] => .ok name
      | _ => .error .usage
    else if isOption word then .error (if asksForHelp word then .help .showIndex else .usage)
    else
      match operands .showIndex none (fun _ => false) false rest with
      | .ok _ => .ok word
      | .error stop => .error stop

/-- Reads the words after a command that asks for help. -/
def helpTopic : List String → Stop
  | [] => .help .overview
  | [word] =>
    match Topic.ofName? word with
    | some topic => .help topic
    | none => .usage
  | _ => .usage

/-- Reads a command and the words after it. -/
def request (command : String) (words : List String) : Except Stop Request :=
  match Topic.ofName? command with
  | some .compile => (paths .compile none words).map fun o => .compile o.words
  | some .apply => (paths .apply (some "--dry-run") words).map fun o => .apply o.words o.flag
  | some .showIndex => (name words).map .showIndex
  | some .help => .error (helpTopic words)
  | _ => .error .usage

def Options.setVerbose (options : Options) : Except Stop Options :=
  if options.verbose then .error .usage else .ok { options with verbose := true }

def Options.setUrl (options : Options) (url : String) : Except Stop Options :=
  if options.databaseUrl.isSome then .error .usage
  else .ok { options with databaseUrl := some url }

/-- What one word of options asks for: nothing more, or a value in the next word. -/
inductive OptionWord where
  | complete (options : Options)
  | needsUrl (options : Options)

/-- Reads the letters after one hyphen. The letter of an option with a value may have the value
right behind it. -/
def shortOptions (options : Options) : List Char → Except Stop OptionWord
  | [] => .ok (.complete options)
  | 'h' :: _ => .error (.help .overview)
  | 'V' :: _ => .error .version
  | 'v' :: rest =>
    match options.setVerbose with
    | .error stop => .error stop
    | .ok options => shortOptions options rest
  | 'd' :: rest =>
    match rest with
    | [] => .ok (.needsUrl options)
    | '=' :: url => (options.setUrl (String.ofList url)).map .complete
    | url => (options.setUrl (String.ofList url)).map .complete
  | _ => .error .usage

/-- Reads one word of options. -/
def optionWord (options : Options) (word : String) : Except Stop OptionWord :=
  match word.toList with
  | '-' :: '-' :: text =>
    match text.span (· ≠ '=') with
    | (name, []) =>
      match String.ofList name with
      | "help" => .error (.help .overview)
      | "version" => .error .version
      | "verbose" => options.setVerbose.map .complete
      | "database-url" => .ok (.needsUrl options)
      | _ => .error .usage
    | (name, _ :: url) =>
      if String.ofList name = "database-url" then
        (options.setUrl (String.ofList url)).map .complete
      else .error .usage
  | '-' :: letters => shortOptions options letters
  | _ => .error .usage

/-- Options, and a connection string that stood in a word of its own. It becomes an option when the
next option is read, or else after the command, whose words may stop the reading before. -/
structure Pending where
  options : Options := {}
  url : Option String := none

def Pending.settle (p : Pending) : Except Stop Options :=
  match p.url with
  | none => .ok p.options
  | some url => p.options.setUrl url

/-- Reads all words, the options before the command first. -/
def invocation (p : Pending) : List String → Except Stop Invocation
  | [] => .error .usage
  | word :: rest =>
    if isOption word then
      match p.settle with
      | .error stop => .error stop
      | .ok options =>
        match optionWord options word with
        | .error stop => .error stop
        | .ok (.complete options) => invocation { options } rest
        | .ok (.needsUrl options) =>
          match rest with
          | [] => .error .usage
          | url :: rest =>
            if isOption url then .error .usage else invocation { options, url := some url } rest
    else do
      let request ← request word rest
      let options ← p.settle
      return { options, request }

end SchemaDraft.CommandLine
