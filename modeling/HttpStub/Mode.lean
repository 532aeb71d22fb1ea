/-!
# Modes of operation

## Main definitions

* `HttpStub.Mode` — how requests are served.
* `HttpStub.Mode.usesBackend` — the modes that send requests on.
-/

namespace HttpStub

/-- How requests are served. -/
inductive Mode where
  /-- Requests are answered from stubs. -/
  | replay
  /-- Requests are sent on, and the exchanges are kept. -/
  | record
  /-- Requests are sent on, and nothing is kept. -/
  | proxy
  deriving DecidableEq, Repr, Inhabited

namespace Mode

/-- The name of a mode. -/
def name : Mode → String
  | replay => "replay"
  | record => "record"
  | proxy => "proxy"

/-- The mode of a name, in the order of the cases. -/
def ofName? (s : String) : Option Mode :=
  [replay, record, proxy].find? (·.name == s)

/-- Requests are sent on to a backend. -/
def usesBackend : Mode → Bool
  | replay => false
  | record => true
  | proxy => true

/-- Each mode is read back from its name. -/
@[simp] theorem ofName?_name (m : Mode) : ofName? m.name = some m := by
  cases m <;> rfl

end Mode

end HttpStub
