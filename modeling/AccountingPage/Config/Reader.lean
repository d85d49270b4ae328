import AccountingPage.Config.Basic
import AccountingPage.Json.Reader

/-!
# Reading a configuration

A page gives its configuration as a JSON text: an object of the settings that it replaces, or a
list of the first few of them in their order.  Each value is a string.  A name that is no setting
is refused, so that a slip of the pen is not taken for a default.

* `Config.namedSettings` and `Config.listedSettings` read the two forms.
* `Config.ofJson` reads and validates a text.
-/

set_option autoImplicit false

namespace AccountingPage
namespace Config

inductive Error where
  | malformed (e : Json.Error)
  | invalid (e : Invalid)

def Error.message : Error → String
  | malformed e => s!"config parse failed: {e.message}"
  | invalid e => e.message

/-- One member of the object.  A name that is no setting is refused before its value is read, and so
is a setting that is repeated. -/
def namedSettingStep (sofar : List (Setting × String)) :
    Json.Reader (Json.Turn (List (Setting × String)) (List (Setting × String))) := fun cs =>
  match Json.nextName sofar.isEmpty cs with
  | .error f => .error f
  | .ok (none, rest) => .ok (.leave sofar.reverse, rest)
  | .ok (some name, rest) =>
    match Setting.ofName? name with
    | none => Json.floatingFault (.unknownField name (Setting.all.map Setting.name)) rest
    | some setting =>
      if setting ∈ sofar.map (·.1) then Json.floatingFault (.duplicateField setting.name) rest
      else
        match Json.colon rest with
        | .error f => .error f
        | .ok rest =>
          match Json.stringField rest with
          | .error f => .error f
          | .ok (v, rest) => .ok (.again ((setting, v) :: sofar), rest)

def namedSettings : Json.Reader (List (Setting × String)) := Json.iterate namedSettingStep []

/-- The items of the list go to the settings in turn, as far as they reach. -/
def listedSettings (first : Bool) : List Setting → Json.Reader (List (Setting × String))
  | [], cs => .ok ([], cs)
  | setting :: settings, cs =>
    match Json.nextItem first cs with
    | .error f => .error f
    | .ok (false, rest) => .ok ([], rest)
    | .ok (true, rest) =>
      match Json.stringField rest with
      | .error f => .error f
      | .ok (v, rest) =>
        match listedSettings false settings rest with
        | .error f => .error f
        | .ok (vs, rest) => .ok ((setting, v) :: vs, rest)

def settings : Json.Reader (List (Setting × String)) :=
  Json.record "UiConfig" namedSettings (listedSettings true Setting.all)

/-- The configuration that a text describes: the defaults with the text's settings in their
place. -/
def ofJson (text : String) : Except Error Config :=
  match Json.document settings text with
  | .error e => .error (.malformed e)
  | .ok values =>
    let c := standard.override values
    match c.validate with
    | .error e => .error (.invalid e)
    | .ok () => .ok c

end Config
end AccountingPage
