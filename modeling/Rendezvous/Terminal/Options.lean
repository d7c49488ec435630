/-
`Args`: the options of the terminal client, and how they are found among the arguments.

An option is found wherever it stands. Its value is the argument behind it, whatever that is, or
what follows an equals sign, perhaps between two quotes of a kind; the first form wins wherever both
occur. An option that has been understood is taken away before the next one is looked for, and
arguments that are left over are ignored. `--credentials-dir` is the exception: it is read as a path
and knows the first form only.
-/
import Rendezvous.Service.Environment

set_option autoImplicit false

namespace Rendezvous.Terminal

/-- `Args`: what the client is told when it is started. -/
structure Options where
  environment : Service.Environment
  /-- overrides the base URL of the deployment -/
  address : Option String
  /-- where the credentials are kept -/
  directory : Option String
  email : Option String
  password : Option String
deriving Repr, DecidableEq

/-- Why options are refused. -/
inductive Options.Refusal
  | noValue (option : String)
  | unparsable (value cause : String)
deriving Repr, DecidableEq

/-- The wording of a refusal. -/
def Options.Refusal.message : Options.Refusal → String
  | .noValue option => "the '" ++ option ++ "' option doesn't have an associated value"
  | .unparsable value cause => "failed to parse '" ++ value ++ "': " ++ cause

/-- `HELP`. -/
def Options.helpText : String :=
  "Talk to a ZoekDeware API from the terminal\n" ++
  "\n" ++
  "USAGE:\n" ++
  "  zd_client [OPTIONS]\n" ++
  "\n" ++
  "OPTIONS:\n" ++
  "  --env NAME              development | staging | production  " ++
    "[default: by build profile]\n" ++
  "  --base-url URL          Override the API base URL (including /api/v1)\n" ++
  "  --credentials-dir DIR   Where the session is stored  [default: per-user data dir]\n" ++
  "  --email EMAIL           Log in on start\n" ++
  "  --password PASS         Password for --email\n" ++
  "\n" ++
  "FLAGS:\n" ++
  "  -h, --help              Print help information\n" ++
  "\n" ++
  "ENVIRONMENT:\n" ++
  "  RUST_LOG                Log filter (e.g., zoekdeware=debug)\n"

namespace Options

/-- Whether the arguments ask how the client is used. This is looked at before anything else, so a
broken option beside it does no harm. -/
def asksForHelp (arguments : List String) : Bool :=
  arguments.contains "-h" || arguments.contains "--help"

/-- The value of an option in the form of two arguments, and the arguments that are left. The option
as the last argument is an error, even though the other form may stand before it. -/
def takePair (option : String) :
    List String → Except Refusal (Option (String × List String))
  | [] => .ok none
  | [last] => if last = option then .error (.noValue option) else .ok none
  | first :: second :: rest =>
    if first = option then .ok (some (second, rest))
    else
      match takePair option (second :: rest) with
      | .error e => .error e
      | .ok none => .ok none
      | .ok (some (value, left)) => .ok (some (value, first :: left))

/-- What follows the equals sign, without the quotes around it. A quote that is not closed is
refused, and so is an empty value. -/
def unquoted (option : String) (text : List Char) : Except Refusal String :=
  let inner : Except Refusal (List Char) :=
    match text with
    | [] => .ok []
    | c :: rest =>
      if c = '"' ∨ c = '\x27' then
        if rest.getLast? = some c then .ok rest.dropLast else .error (.noValue option)
      else .ok text
  match inner with
  | .error e => .error e
  | .ok value => if value.isEmpty then .error (.noValue option) else .ok (String.ofList value)

/-- What follows an option and an equals sign within one argument. -/
def afterEquals? (option argument : String) : Option (List Char) :=
  let start := option.toList ++ ['=']
  if start.isPrefixOf argument.toList then some (argument.toList.drop start.length) else none

/-- The value of an option in the form of one argument, and the arguments that are left. -/
def takeJoined (option : String) :
    List String → Except Refusal (Option (String × List String))
  | [] => .ok none
  | first :: rest =>
    match afterEquals? option first with
    | some text =>
      match unquoted option text with
      | .error e => .error e
      | .ok value => .ok (some (value, rest))
    | none =>
      match takeJoined option rest with
      | .error e => .error e
      | .ok none => .ok none
      | .ok (some (value, left)) => .ok (some (value, first :: left))

/-- The value of an option in either form, and the arguments that are left. -/
def take (option : String) (arguments : List String) :
    Except Refusal (Option String × List String) :=
  match takePair option arguments with
  | .error e => .error e
  | .ok (some (value, left)) => .ok (some value, left)
  | .ok none =>
    match takeJoined option arguments with
    | .error e => .error e
    | .ok (some (value, left)) => .ok (some value, left)
    | .ok none => .ok (none, arguments)

/-- The deployment with a name; the one of the build if none is named. -/
def environmentNamed : Option String → Except Refusal Service.Environment
  | none => .ok .current
  | some text =>
    match Service.Environment.parse text with
    | .ok e => .ok e
    | .error name => .error (.unparsable text (Service.Environment.unknownMessage name))

/-- Read the arguments. An option that is taken first may take one that is looked for later as its
value, so the order in which they are taken is part of the behaviour. -/
def parse (arguments : List String) : Except Refusal Options := do
  let (name, arguments) ← take "--env" arguments
  let environment ← environmentNamed name
  let (address, arguments) ← take "--base-url" arguments
  let directory ← takePair "--credentials-dir" arguments
  let (path, arguments) := match directory with
    | some (path, left) => (some path, left)
    | none => (none, arguments)
  let (email, arguments) ← take "--email" arguments
  let (password, _) ← take "--password" arguments
  return ⟨environment, address, path, email, password⟩

/-- `ApiConfig` as the options have it: `with_base_url`, or `for_environment`. -/
def connection (o : Options) : Service.Connection :=
  match o.address with
  | some address => { address := address }
  | none => o.environment.connection

end Options

end Rendezvous.Terminal
