import TenantConsole.Record.Format

/-!
# Keys in headers

The header of a token may carry the key that checks it. The console has a key of its own and never
looks at the one in the header; still it has to be a key: of one of four families, with the texts
that its family needs, and nothing else known to be wrong with it. No member that counts may come
twice.
-/

namespace TenantConsole.WebKey

/-- A family of keys, by the name of its kind and the texts that make one of its keys. -/
structure Family where
  kind : String
  onCurve : Bool
  texts : List String

def families : List Family :=
  [⟨"EC", true, ["x", "y"]⟩, ⟨"RSA", false, ["n", "e"]⟩, ⟨"oct", false, ["k"]⟩,
   ⟨"OKP", true, ["x"]⟩]

def curves : List String := ["P-256", "P-384", "P-521", "Ed25519"]

/-- The algorithms that a key may be meant for. -/
def algorithms : List String :=
  ["HS256", "HS384", "HS512", "ES256", "ES384", "RS256", "RS384", "RS512", "PS256", "PS384",
   "PS512", "EdDSA", "RSA1_5", "RSA-OAEP", "RSA-OAEP-256"]

/-- The name of an algorithm, or an object of one member of that name with an empty object. -/
def algorithm : Format Json :=
  let name := Format.oneOf algorithms
  { name with
    ofJson
      | .obj [(text, .obj [])] => name.ofJson (.str text)
      | found => name.ofJson found }

/-- What every key may say about itself. -/
def remarks : List (String × Format Json) :=
  [("use", .text), ("key_ops", .list .text), ("alg", algorithm), ("kid", .text),
   ("x5u", .text), ("x5c", .list .text), ("x5t", .text), ("x5t#S256", .text)]

def fits (format : Format Json) (value : Json) : Bool := (format.ofJson value).toBool

/-- The values of all members of a name. -/
def values (key : List (String × Json)) (name : String) : List Json :=
  (key.filter fun member => member.1 = name).map Prod.snd

/-- Whether an object has one member of a name, and that of a format. -/
def has (key : List (String × Json)) (name : String) (format : Format Json) : Bool :=
  match values key name with
  | [value] => fits format value
  | _ => false

/-- Whether an object has at most one member of a name, and that of a format or null. -/
def mayHave (key : List (String × Json)) (name : String) (format : Format Json) : Bool :=
  match values key name with
  | [] => true
  | [value] => fits (.nullable format) value
  | _ => false

def Family.holds (family : Family) (key : List (String × Json)) : Bool :=
  has key "kty" (.oneOf [family.kind])
    && (!family.onCurve || has key "crv" (.oneOf curves))
    && family.texts.all fun name => has key name .text

def isKey : Json → Bool
  | .obj key =>
    remarks.all (fun (name, format) => mayHave key name format)
      && families.any fun family => family.holds key
  | _ => false

/-- A key, as it is. -/
def format : Format Json where
  ofJson key := if isKey key then .ok key else .error (.wrongKind key "key")
  read depth text :=
    match Json.readValueWith Json.readPlainObject depth text with
    | .ok (key, rest) => if isKey key then .ok (key, rest) else .error .unfit
    | .error e => .error e

end TenantConsole.WebKey
