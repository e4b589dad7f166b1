import SqlRequest.Text.Hex
import SqlRequest.Text.Parts
import SqlRequest.Text.Utf8

/-!
What a database is kept in: in memory, or in a file that is opened in some way. A name
that begins with `file:` is a URI, in which octets may be written as `%` with two
hexadecimal digits and options may follow a question mark.
-/

namespace SqlRequest.Notebook

/-- How a file is opened. -/
inductive Mode where
  /-- The file is there and is only read. -/
  | read
  /-- The file is there. -/
  | write
  /-- The file is made if it is not there. -/
  | create
  deriving DecidableEq, Repr

/-- What a database is kept in. -/
inductive Target where
  | memory
  | file (path : String) (mode : Mode)
  deriving DecidableEq, Repr

namespace Target

/-! ### Parts of a URI -/

/-- What follows the authority of a URI, if there is one: that has to be empty or this
machine. -/
def afterAuthority? : List Char → Option (List Char)
  | '/' :: '/' :: cs =>
    let authority := cs.takeWhile (· ≠ '/')
    if authority = [] ∨ authority = "localhost".toList then some (cs.dropWhile (· ≠ '/'))
    else none
  | cs => some cs

/-- The octets of a part of a URI. It ends before the first octet that is zero. -/
def octets : List Char → List UInt8
  | '%' :: a :: b :: cs =>
    match Text.hexNumber? 0 [a, b] with
    | some 0 => []
    | some n => n.toUInt8 :: octets cs
    | none => '%'.toNat.toUInt8 :: octets (a :: b :: cs)
  | c :: cs => (String.singleton c).toUTF8.toList ++ octets cs
  | [] => []

def decoded (cs : List Char) : String := Text.Utf8.read (octets cs)

/-- The name of an option and its value. -/
def option (cs : List Char) : String × String :=
  (decoded (cs.takeWhile (· ≠ '=')), decoded ((cs.dropWhile (· ≠ '=')).drop 1))

/-- The options between `&`; those without a name do not count. -/
def options (cs : List Char) : List (String × String) :=
  ((Text.parts '&' cs).map option).filter fun o => o.1 ≠ ""

/-! ### Options -/

/-- What the option `mode` may ask for; `none` stands for memory. -/
def modes : List (String × Option Mode) :=
  [("ro", some .read), ("rw", some .write), ("rwc", some .create), ("memory", none)]

/-- Whether a mode allows no more than another one. -/
def narrows : Option Mode → Option Mode → Bool
  | none, _ | _, none => true
  | some .read, _ | _, some .create => true
  | some m, some n => m = n

/-- The mode after an option. Memory may always be asked for, and a mode for files only
if it allows no more than the one before. The option `cache` has two values. -/
def applyOption (mode : Option Mode) (o : String × String) : Option (Option Mode) :=
  match o with
  | ("mode", value) => (modes.lookup value).filter fun m => narrows m mode
  | ("cache", value) => if value = "shared" ∨ value = "private" then some mode else none
  | _ => some mode

/-- The ways to keep files that the option `vfs` may name, besides `memdb`. -/
def fileSystems : List String := ["unix", "unix-none", "unix-dotfile", "unix-excl"]

/-- The target of a URI, its scheme read. Of options for the file system the last one
counts. Without a path the database is a temporary one. -/
def ofUri? (cs : List Char) : Option Target := do
  let cs ← afterAuthority? cs
  let cs := cs.takeWhile (· ≠ '#')
  let path := decoded (cs.takeWhile (· ≠ '?'))
  let options := options ((cs.dropWhile (· ≠ '?')).drop 1)
  let mode ← options.foldlM applyOption (some Mode.create)
  let system := (options.reverse.lookup "vfs").getD "unix"
  if system = "memdb" then return .memory
  else if system ∉ fileSystems then none
  else if path = "" ∨ path = ":memory:" then return .memory
  else return mode.elim .memory fun m => .file path m

/-- The target that a name stands for, if it is well formed. No name has a NUL in it. -/
def ofName? (name : String) : Option Target :=
  match name.toList with
  | 'f' :: 'i' :: 'l' :: 'e' :: ':' :: cs =>
    if cs.contains '\x00' then none else ofUri? cs
  | cs => if cs.contains '\x00' then none else some (.file name .create)

end Target

end SqlRequest.Notebook
