import AccountingPage.Text.Blank

/-!
# Configuration

Eleven settings, each a text.  They have defaults, so that a page without a configuration works,
and a page may replace any of them.

* `Setting` names the settings in their order; `Config` holds a value for each.
* `Config.override` replaces settings one after the other.
* `Config.validate` finds the first setting that cannot be used, `Config.level` the log level.
* `Config.storageKey` and `Config.detailPath` put a name behind a configured beginning.
-/

set_option autoImplicit false

namespace AccountingPage

/-- How much is logged, from least to most. -/
inductive Level where
  | error
  | warn
  | info
  | debug
  | trace
deriving DecidableEq, Repr, Inhabited

namespace Level

def name : Level → String
  | error => "error"
  | warn => "warn"
  | info => "info"
  | debug => "debug"
  | trace => "trace"

def all : List Level := [error, warn, info, debug, trace]

def ofName? (s : String) : Option Level := all.find? fun l => l.name == s

end Level

/-- The names that a configuration may give. -/
inductive Setting where
  | transactionEndpoint
  | transactionDetailPrefix
  | quickModalId
  | quickFormId
  | csrfTokenMeta
  | csrfHeaderMeta
  | storagePrefix
  | rebindEvent
  | frameworkGlobal
  | alertPrefix
  | logLevel
deriving DecidableEq, Repr, Inhabited

namespace Setting

def name : Setting → String
  | transactionEndpoint => "transactionEndpoint"
  | transactionDetailPrefix => "transactionDetailPrefix"
  | quickModalId => "quickModalId"
  | quickFormId => "quickFormId"
  | csrfTokenMeta => "csrfTokenMeta"
  | csrfHeaderMeta => "csrfHeaderMeta"
  | storagePrefix => "storagePrefix"
  | rebindEvent => "rebindEvent"
  | frameworkGlobal => "frameworkGlobal"
  | alertPrefix => "alertPrefix"
  | logLevel => "logLevel"

def all : List Setting :=
  [transactionEndpoint, transactionDetailPrefix, quickModalId, quickFormId, csrfTokenMeta,
    csrfHeaderMeta, storagePrefix, rebindEvent, frameworkGlobal, alertPrefix, logLevel]

def ofName? (s : String) : Option Setting := all.find? fun f => f.name == s

end Setting

/-- All settings are texts; that they suit is checked apart from reading them. -/
structure Config where
  transactionEndpoint : String
  transactionDetailPrefix : String
  quickModalId : String
  quickFormId : String
  csrfTokenMeta : String
  csrfHeaderMeta : String
  storagePrefix : String
  rebindEvent : String
  frameworkGlobal : String
  alertPrefix : String
  logLevel : String
deriving DecidableEq, Repr

namespace Config

/-- The configuration of a page that gives none. -/
def standard : Config where
  transactionEndpoint := "/transactions/api"
  transactionDetailPrefix := "/transactions/"
  quickModalId := "quick-transaction-modal"
  quickFormId := "quick-transaction-form"
  csrfTokenMeta := "_csrf"
  csrfHeaderMeta := "_csrf_header"
  storagePrefix := "_x_"
  rebindEvent := "htmx:afterSettle"
  frameworkGlobal := "Alpine"
  alertPrefix := "Gagal menyimpan: "
  logLevel := "debug"

instance : Inhabited Config := ⟨standard⟩

def get (c : Config) : Setting → String
  | .transactionEndpoint => c.transactionEndpoint
  | .transactionDetailPrefix => c.transactionDetailPrefix
  | .quickModalId => c.quickModalId
  | .quickFormId => c.quickFormId
  | .csrfTokenMeta => c.csrfTokenMeta
  | .csrfHeaderMeta => c.csrfHeaderMeta
  | .storagePrefix => c.storagePrefix
  | .rebindEvent => c.rebindEvent
  | .frameworkGlobal => c.frameworkGlobal
  | .alertPrefix => c.alertPrefix
  | .logLevel => c.logLevel

def set (c : Config) (v : String) : Setting → Config
  | .transactionEndpoint => { c with transactionEndpoint := v }
  | .transactionDetailPrefix => { c with transactionDetailPrefix := v }
  | .quickModalId => { c with quickModalId := v }
  | .quickFormId => { c with quickFormId := v }
  | .csrfTokenMeta => { c with csrfTokenMeta := v }
  | .csrfHeaderMeta => { c with csrfHeaderMeta := v }
  | .storagePrefix => { c with storagePrefix := v }
  | .rebindEvent => { c with rebindEvent := v }
  | .frameworkGlobal => { c with frameworkGlobal := v }
  | .alertPrefix => { c with alertPrefix := v }
  | .logLevel => { c with logLevel := v }

/-- Replaces settings one after the other. -/
def override (c : Config) (values : List (Setting × String)) : Config :=
  values.foldl (fun c v => c.set v.2 v.1) c

/-- A configuration is what its settings are. -/
theorem ext_get {c d : Config} (h : ∀ f, c.get f = d.get f) : c = d := by
  cases c
  cases d
  have h1 := h .transactionEndpoint
  have h2 := h .transactionDetailPrefix
  have h3 := h .quickModalId
  have h4 := h .quickFormId
  have h5 := h .csrfTokenMeta
  have h6 := h .csrfHeaderMeta
  have h7 := h .storagePrefix
  have h8 := h .rebindEvent
  have h9 := h .frameworkGlobal
  have h10 := h .alertPrefix
  have h11 := h .logLevel
  simp only [get] at h1 h2 h3 h4 h5 h6 h7 h8 h9 h10 h11
  subst h1 h2 h3 h4 h5 h6 h7 h8 h9 h10 h11
  rfl

/-! ## Validation -/

/-- A setting that cannot be used, and why. -/
structure Invalid where
  setting : Setting
  reason : String
deriving DecidableEq, Repr

def Invalid.message (e : Invalid) : String :=
  s!"invalid config value for {e.setting.name}: {e.reason}"

/-- ASCII letters in lower case, everything else as it is. -/
def lowerAscii (s : String) : String := String.ofList (s.toList.map Char.toLower)

/-- What a setting has to satisfy. -/
inductive Requirement where
  | path
  | notBlank
  | knownLevel
deriving DecidableEq, Repr

/-- Why a value does not satisfy a requirement. -/
def Requirement.complaint? (r : Requirement) (v : String) : Option String :=
  match r with
  | .path =>
    if v.toList.head? = some '/' then none else some s!"'{v}' must start with '/'"
  | .notBlank => if Text.allBlank v then some "must not be empty" else none
  | .knownLevel =>
    if (Level.ofName? (lowerAscii v)).isSome then none
    else some s!"unknown level '{lowerAscii v}' (expected error, warn, info, debug or trace)"

/-- The settings that are checked, in the order of the checks.  The storage prefix and the alert
prefix may be anything. -/
def requirements : List (Setting × Requirement) :=
  [(.transactionEndpoint, .path), (.transactionDetailPrefix, .path), (.quickModalId, .notBlank),
    (.quickFormId, .notBlank), (.csrfTokenMeta, .notBlank), (.csrfHeaderMeta, .notBlank),
    (.rebindEvent, .notBlank), (.frameworkGlobal, .notBlank), (.logLevel, .knownLevel)]

/-- The first setting that cannot be used. -/
def firstInvalid? (c : Config) : Option Invalid :=
  requirements.findSome? fun (f, r) => (r.complaint? (c.get f)).map (⟨f, ·⟩)

/-- The first setting that does not suit is reported, in a fixed order. -/
def validate (c : Config) : Except Invalid Unit :=
  match c.firstInvalid? with
  | some e => .error e
  | none => .ok ()

/-- An unknown level counts as `debug`. -/
def level (c : Config) : Level := (Level.ofName? (lowerAscii c.logLevel)).getD .debug

/-! ## Derived names -/

def storageKey (c : Config) (key : String) : String := c.storagePrefix ++ key

def detailPath (c : Config) (id : String) : String := c.transactionDetailPrefix ++ id

end Config

end AccountingPage
