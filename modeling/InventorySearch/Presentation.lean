import InventorySearch.Code

/-! What a request says about the presentation of its results: the direction of sorting and the
tab of the detail view that a row opens. -/
namespace InventorySearch

/-- The direction of sorting. -/
inductive SortDirection where
  | asc
  | desc
  deriving DecidableEq

instance : Choice SortDirection where
  kind := "sort direction"
  all := [.asc, .desc]
  code
    | .asc => "asc"
    | .desc => "desc"

/-- A tab of the detail view of a computer. -/
inductive DetailTab where
  | general
  | windows
  | network
  | storage
  | display
  | bios
  | system
  | printers
  | software
  | msOffice
  | registry
  | virtualMachines
  | misc
  | userDefined
  | packages
  | groups
  deriving DecidableEq

namespace DetailTab

instance : Choice DetailTab where
  kind := "jump target"
  all := [.general, .windows, .network, .storage, .display, .bios, .system, .printers, .software,
    .msOffice, .registry, .virtualMachines, .misc, .userDefined, .packages, .groups]
  code
    | .general => "general"
    | .windows => "windows"
    | .network => "network"
    | .storage => "storage"
    | .display => "display"
    | .bios => "bios"
    | .system => "system"
    | .printers => "printers"
    | .software => "software"
    | .msOffice => "msoffice"
    | .registry => "registry"
    | .virtualMachines => "virtualmachines"
    | .misc => "misc"
    | .userDefined => "userdefined"
    | .packages => "packages"
    | .groups => "groups"

end DetailTab

end InventorySearch
