import HeadEnd.Session.Question

/-! # Reading attributes

Several attributes are read with one request if the meter supports that, and one after the other if
it does not. Either way there is one result for each address, in the order of the addresses.
-/

namespace HeadEnd

/-- Fails unless the access took place. -/
def AccessResult.check (result : AccessResult) (context : String) : Outcome Unit :=
  if result.isSuccess then .ok () else .error (.accessRefused context result)

/-- Fails unless the method was carried out. -/
def MethodResult.check (result : MethodResult) (context : String) : Outcome Unit :=
  if result.isSuccess then .ok () else .error (.methodRefused context result)

namespace Operation

def readAll (addresses : List AttributeAddress) :
    Operation { results : List GetResult // results.length = addresses.length } := do
  let results ←
    if (← get).supportsBatchedRead then readBatch addresses else addresses.mapM readAttribute
  if h : results.length = addresses.length then return ⟨results, h⟩
  else throw (.protocol (.resultCount addresses.length results.length))

/-- Fails at the first result that is not a success. -/
def checkAll (context : String) (results : List GetResult) : Outcome Unit :=
  results.forM fun result => result.result.check context

/-- Reads several attributes, none of which may be refused. -/
def readChecked (context : String) (addresses : List AttributeAddress) :
    Operation { results : List GetResult // results.length = addresses.length } := do
  let results ← readAll addresses
  checkAll context results.val
  return results

def readValues (context : String) (addresses : List AttributeAddress) :
    Operation { values : List Value // values.length = addresses.length } := do
  let ⟨results, h⟩ ← readChecked context addresses
  return ⟨results.map GetResult.value, by simpa using h⟩

/-- Reads an attribute, which may not be refused, and returns its value. -/
def readValue (context : String) (address : AttributeAddress) : Operation Value := do
  match ← readValues context [address] with
  | ⟨[value], _⟩ => return value

end Operation

end HeadEnd
