import AccountingPage.Store

/-!
# Navigation sections

A section of the navigation is open or closed.  Most sections outlive the page: they start as the
store says and write every change back.

* `Nav` is the record; without a storage key it is forgotten with the page.
* `Nav.restore` makes a section from the store, `Nav.setOpen` opens or closes one.
* `KeptSection.all` lists the page's own sections that are kept.
-/

set_option autoImplicit false

namespace AccountingPage

/-- A section, and the key under which its flag is kept, if it is. -/
structure Nav where
  isOpen : Bool
  storageKey? : Option String
deriving DecidableEq, Repr, Inhabited

namespace Nav

/-- A section that is forgotten with the page. -/
def forgetful (isOpen : Bool) : Nav := ⟨isOpen, none⟩

/-- The stored flag, or else the default. -/
def restore (s : Store) (key : String) (byDefault : Bool) : Nav × List Effect :=
  let (flag, effects) := s.flagAt key
  (⟨flag.getD byDefault, some key⟩, effects)

/-- Opens or closes a section.  The flag is written even if it is the one that is stored already. -/
def setOpen (n : Nav) (b : Bool) : Nav × List Effect :=
  (⟨b, n.storageKey?⟩, n.storageKey?.toList.map fun key => Effect.saveFlag key b)

def flip (n : Nav) : Nav × List Effect := n.setOpen !n.isOpen

end Nav

/-- A section that is kept: its component, its key before the configured prefix, and how it is when
nothing is stored. -/
structure KeptSection where
  component : String
  key : String
  byDefault : Bool
deriving DecidableEq, Repr

namespace KeptSection

def akuntansi : KeptSection := ⟨"navAkuntansi", "nav-akuntansi", true⟩

def laporan : KeptSection := ⟨"navLaporan", "nav-laporan", false⟩

def proyek : KeptSection := ⟨"navProyek", "nav-proyek", false⟩

def inventori : KeptSection := ⟨"navInventori", "nav-inventori", false⟩

def payroll : KeptSection := ⟨"navPayroll", "nav-payroll", false⟩

def master : KeptSection := ⟨"navMaster", "nav-master", false⟩

def all : List KeptSection := [akuntansi, laporan, proyek, inventori, payroll, master]

end KeptSection

end AccountingPage
