/-
This file defines how the results of one request are put together: the values of
the queries and the counts of the other commands in one list, the output
parameters in another.
-/

import SybaseDriver.Value

namespace Sybase

/-- `ss::ResultFactory`. `last` is the result added since the last `CS_CMD_DONE`. -/
structure ResultFactory where
  params : List QoreValue
  reslist : List QoreValue
  last : QoreValue

namespace ResultFactory

/-- A factory with no result. -/
def empty : ResultFactory := ⟨[], [], .nothing⟩

/-- `ResultFactory::add_params`. -/
def addParams (rf : ResultFactory) (value : QoreValue) : ResultFactory :=
  { rf with params := rf.params ++ [value], last := value }

/-- `ResultFactory::add`. -/
def add (rf : ResultFactory) (value : QoreValue) : ResultFactory :=
  { rf with reslist := rf.reslist ++ [value], last := value }

/-- `ResultFactory::done`, called on `CS_CMD_DONE`. -/
def done (rf : ResultFactory) (rowcount : Int) : ResultFactory :=
  if rowcount ≤ 0 then { rf with last := .nothing }
  else if rf.last.isPresent then { rf with last := .nothing }
  else { rf with reslist := rf.reslist ++ [.int rowcount] }

/-- `ResultFactory::keygen`. -/
def keygen (index : Nat) : Text := text "query" ++ decimal index

/-- `RefHolderVector::release_to_hash`, from the value with an index. -/
def releaseToHash (index : Nat) (h : Hash) : List QoreValue → Hash
  | [] => h
  | value :: rest => releaseToHash (index + 1) (Hash.setKeyValue h (keygen index) value) rest

/-- `RefHolderVector::release_smart`: NOTHING for no value, the value itself for one, else a
hash. -/
def releaseSmart : List QoreValue → QoreValue
  | [] => .nothing
  | [value] => value
  | values => .hash (releaseToHash 0 [] values)

/-- `ResultFactory::res`. -/
def res (rf : ResultFactory) : QoreValue :=
  if rf.params.isEmpty then releaseSmart rf.reslist
  else if rf.reslist.isEmpty then releaseSmart rf.params
  else .hash (Hash.setKeyValue (Hash.setKeyValue [] (text "query") (releaseSmart rf.reslist))
    (text "params") (releaseSmart rf.params))

end ResultFactory

end Sybase
