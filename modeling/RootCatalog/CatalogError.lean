import RootCatalog.Json.Token
/-! Errors of an enumeration. Each names the stage that failed, and has a status code that a host
sees in place of the error. -/
namespace RootCatalog

inductive CatalogError where
  | format (text : String)
  | allocation (text : String)
  | search (text : String)
  | invalidArgument (text : String)
  | invalidEntryName (text : String)
  | entryCountMismatch (declared yielded : UInt32)
  | config (text : String)
  | internal (text : String)
  deriving DecidableEq, Repr

namespace CatalogError

def message : CatalogError → String
  | format text => "format error: " ++ text
  | allocation text => "allocation failed: " ++ text
  | search text => "search error: " ++ text
  | invalidArgument text => "invalid argument: " ++ text
  | invalidEntryName text => "invalid entry name: " ++ text
  | entryCountMismatch declared yielded =>
    s!"entry count mismatch: declared {declared}, yielded {yielded}"
  | config text => "configuration error: " ++ text
  | internal text => "internal error: " ++ text

def status : CatalogError → Int
  | format _ => 1
  | allocation _ => 2
  | search _ => 3
  | invalidArgument _ => 4
  | invalidEntryName _ => 5
  | entryCountMismatch _ _ => 6
  | config _ => 7
  | internal _ => 8

def ofStatus (code : Int) (text : String) : CatalogError :=
  if code = 1 then format text
  else if code = 2 then allocation text
  else if code = 3 then search text
  else if code = 4 then invalidArgument text
  else if code = 5 then invalidEntryName text
  else if code = 6 then entryCountMismatch 0 0
  else if code = 7 then config text
  else internal text

def capacityExceeded : CatalogError :=
  allocation ("memory allocation failed because the computed capacity exceeded " ++
    "the collection's maximum")

def ofFault : Json.Fault → CatalogError
  | .truncated => config "the document ends too early"
  | .malformed => config "the document is not JSON"
  | .data text => config text

end CatalogError

def statusOk : Int := 0

def statusMessage (code : Int) : String :=
  if code = 0 then "success"
  else if code = 1 then "root file format error"
  else if code = 2 then "allocation failed"
  else if code = 3 then "search failed"
  else if code = 4 then "invalid argument"
  else if code = 5 then "entry name is not representable as a C string"
  else if code = 6 then "declared entry count does not match entries yielded"
  else if code = 7 then "configuration rejected"
  else if code = 8 then "internal error"
  else "unknown status"

end RootCatalog
