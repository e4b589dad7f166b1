import SqlRequest.Decode.Layout
import SqlRequest.Settings.Dsn
import SqlRequest.Settings.Toml.Document

/-!
Settings of a connection: its data source, a user and a password. They stand in the
table `connection` of a configuration, and each of them has to be there. A configuration
may name the address of its documentation, which messages refer to.
-/

namespace SqlRequest

/-- What a connection is made with. -/
structure ConnectionSettings where
  dsn : String
  username : String
  password : String
  deriving DecidableEq, Repr

namespace ConnectionSettings

/-- The documentation that messages refer to when a configuration names none. -/
def defaultDocs : String := "https://github.com/persisql/persisql"

/-- The value of a key of the connection. -/
def require (docs : String) (connection : Setting) (key : String) : Except SetupFault String :=
  match (connection.get? key).bind Setting.text? with
  | some s => .ok s
  | none => .error (.missingKey key docs)

/-- The connection of a configuration. The first key that is missing is reported. -/
def ofSetting (root : Setting) : Except SetupFault ConnectionSettings :=
  let docs := ((root.get? "docs").bind Setting.text?).getD defaultDocs
  match root.get? "connection" with
  | some (.table es) => do
    let dsn ← require docs (.table es) "dsn"
    let username ← require docs (.table es) "username"
    let password ← require docs (.table es) "password"
    return ⟨dsn, username, password⟩
  | _ => .error (.missingConnection docs)

/-- The connection of a configuration in TOML, which has a name in messages. -/
def ofToml (name toml : String) : Except SetupFault ConnectionSettings :=
  match Toml.read? toml with
  | some entries => ofSetting (Setting.layer (.table []) entries)
  | none => .error (.malformedFile name)

/-- What to connect to. -/
def target (s : ConnectionSettings) : Except SetupFault Dsn := Dsn.ofText s.dsn

def layout : Layout ConnectionSettings :=
  ConnectionSettings.mk
    <$> .required "dsn" Decode.text
    <*> .required "username" Decode.text
    <*> .required "password" Decode.text

def ofJson : Decoder ConnectionSettings := Decode.struct "ConnectionSettings" layout

end ConnectionSettings

end SqlRequest
