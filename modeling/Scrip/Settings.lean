import Scrip.Request.Field
set_option autoImplicit false

/-! # Settings

The values that configure the service, each with a default. `Settings.ofFields` takes given
values in place of the defaults, or tells what is wrong with them. The letter case of a name does
not matter, and a name that no setting has is wrong.
-/

namespace Scrip

structure Settings where
  databaseUrl : String := "postgresql+asyncpg://ledger:ledger@db:5432/ledger"
  databasePoolSize : Int := 20
  databaseMaxOverflow : Int := 10
  sessionTtlSeconds : Int := 86400
  creditsPerUnit : Int := 10
  minimumTopupAmount : Int := 1
  currency : String := "PHP"
  recommendationDefaultLimit : Int := 6
  recommendationMaxLimit : Int := 20
  transactionHistoryLimit : Int := 50
  adminToken : Option String := none
  corsOrigins : List String := ["http://localhost:3000"]
  logLevel : String := "INFO"
  logFormat : String := "json"
deriving DecidableEq, Repr

namespace Settings

/-- The scheme under which hosting providers hand out database addresses. -/
def plainScheme : String := "postgresql://"

/-- The scheme that the database driver needs. -/
def driverScheme : String := "postgresql+asyncpg://"

/-- A database address with the scheme that the driver needs. -/
def withDriver (url : String) : String :=
  if plainScheme.toList.isPrefixOf url.toList then
    driverScheme ++ String.ofList (url.toList.drop plainScheme.length)
  else
    url

/-- The texts of a list from the index `n` on. -/
def texts (key : String) : Int → List Json → Except (List Issue) (List String)
  | _, [] => .ok []
  | n, j :: js =>
    let here : Except (List Issue) String := match Field.text j with
      | .ok s => .ok s
      | .error c => .error [⟨[.key key, .index n], c⟩]
    Field.both List.cons here (texts key (n + 1) js)

def textList (fields : List (String × Json)) (key : String) (default : List String) :
    Except (List Issue) (List String) :=
  match Json.lookup fields key with
  | none => .ok default
  | some (.list js) => texts key 0 js
  | some _ => .error [⟨[.key key], .notList⟩]

def names : List String :=
  ["database_url", "database_pool_size", "database_max_overflow", "session_ttl_seconds",
   "credits_per_unit", "minimum_topup_amount", "currency", "recommendation_default_limit",
   "recommendation_max_limit", "transaction_history_limit", "admin_token", "cors_origins",
   "log_level", "log_format"]

/-- A name in small letters. The sign of the unit kelvin is a capital letter as well. -/
def smallName (s : String) : String :=
  String.ofList (s.toList.map fun c => if c = '\u212A' then 'k' else c.toLower)

/-- The given values under the names of the settings; the exact name goes before its variants. -/
def known (fields : List (String × Json)) : List (String × Json) :=
  names.filterMap fun name =>
    let variant := (fields.find? fun f => smallName f.1 == name).map (·.2)
    ((Json.lookup fields name).or variant).map fun j => (name, j)

/-- The issues with given names that no setting has. -/
def unknown (fields : List (String × Json)) : List Issue :=
  (fields.filter fun f => !names.contains (smallName f.1)).map fun f =>
    ⟨[.key f.1], .notAllowed⟩

/-- The settings with given values, each under the name of a setting. -/
def ofKnown (fields : List (String × Json)) : Except (List Issue) Settings :=
  let base : Settings := {}
  let number (key : String) (default : Int) := Field.checkOr fields key default Field.whole
  let word (key : String) (default : String) := Field.checkOr fields key default Field.text
  let set {α : Type} (r : Except (List Issue) Settings) (f : Settings → α → Settings)
      (v : Except (List Issue) α) := Field.both f r v
  let r := Except.ok base
  let r := set r (fun s v => { s with databaseUrl := withDriver v })
    (word "database_url" base.databaseUrl)
  let r := set r (fun s v => { s with databasePoolSize := v })
    (number "database_pool_size" base.databasePoolSize)
  let r := set r (fun s v => { s with databaseMaxOverflow := v })
    (number "database_max_overflow" base.databaseMaxOverflow)
  let r := set r (fun s v => { s with sessionTtlSeconds := v })
    (number "session_ttl_seconds" base.sessionTtlSeconds)
  let r := set r (fun s v => { s with creditsPerUnit := v })
    (number "credits_per_unit" base.creditsPerUnit)
  let r := set r (fun s v => { s with minimumTopupAmount := v })
    (number "minimum_topup_amount" base.minimumTopupAmount)
  let r := set r (fun s v => { s with currency := v }) (word "currency" base.currency)
  let r := set r (fun s v => { s with recommendationDefaultLimit := v })
    (number "recommendation_default_limit" base.recommendationDefaultLimit)
  let r := set r (fun s v => { s with recommendationMaxLimit := v })
    (number "recommendation_max_limit" base.recommendationMaxLimit)
  let r := set r (fun s v => { s with transactionHistoryLimit := v })
    (number "transaction_history_limit" base.transactionHistoryLimit)
  let r := set r (fun s v => { s with adminToken := v })
    (Field.checkOr fields "admin_token" none (Field.orNull Field.text))
  let r := set r (fun s v => { s with corsOrigins := v })
    (textList fields "cors_origins" base.corsOrigins)
  let r := set r (fun s v => { s with logLevel := v }) (word "log_level" base.logLevel)
  set r (fun s v => { s with logFormat := v }) (word "log_format" base.logFormat)

def ofFields (fields : List (String × Json)) : Except (List Issue) Settings :=
  let strange := unknown fields
  Field.both (fun s _ => s) (ofKnown (known fields))
    (if strange.isEmpty then .ok () else .error strange)

def view (s : Settings) : Json :=
  .object [
    ("database_url", .text s.databaseUrl),
    ("database_pool_size", .int s.databasePoolSize),
    ("database_max_overflow", .int s.databaseMaxOverflow),
    ("session_ttl_seconds", .int s.sessionTtlSeconds),
    ("credits_per_unit", .int s.creditsPerUnit),
    ("minimum_topup_amount", .int s.minimumTopupAmount),
    ("currency", .text s.currency),
    ("recommendation_default_limit", .int s.recommendationDefaultLimit),
    ("recommendation_max_limit", .int s.recommendationMaxLimit),
    ("transaction_history_limit", .int s.transactionHistoryLimit),
    ("admin_token", Json.ofOption .text s.adminToken),
    ("cors_origins", .list (s.corsOrigins.map .text)),
    ("log_level", .text s.logLevel),
    ("log_format", .text s.logFormat)]

end Settings

end Scrip
