import Nodewright.Codec.Record
import Nodewright.Quantity
import Nodewright.Violation

/-! # Compute and storage requests

Requests and limits of a node, as quantities in the words of the submitter. They are parsed only to
be compared: a limit must not be below its request, and storage must not shrink.

* `Resources.fill`   takes what is missing from the profile of a kind
* `Resources.problems`   what is wrong with the requests by themselves
* `Resources.transitions`   what must not change -/

namespace Nodewright

/-- What a node asks of the machine that it runs on. -/
structure Resources where
  cpu : Option String
  cpuLimit : Option String
  memory : Option String
  memoryLimit : Option String
  storage : Option String
  storageClass : Option String
deriving DecidableEq, Repr

/-- What a kind of node asks for by default. -/
structure ResourceProfile where
  cpu : String
  cpuLimit : String
  memory : String
  memoryLimit : String
  storage : String
deriving DecidableEq, Repr

namespace Resources

/-- No request at all. -/
def none : Resources := ⟨.none, .none, .none, .none, .none, .none⟩

instance : Inhabited Resources := ⟨none⟩

/-- Resources as JSON. -/
def codec : Codec Resources :=
  (Fields.build mk
    |>.member (.optional "cpu" .text) cpu
    |>.member (.optional "cpuLimit" .text) cpuLimit
    |>.member (.optional "memory" .text) memory
    |>.member (.optional "memoryLimit" .text) memoryLimit
    |>.member (.optional "storage" .text) storage
    |>.member (.optional "storageClass" .text) storageClass).codec "Resources"

/-- The limit for a request where none is given: the larger of the request and the default. -/
def limitFor (request fallback : String) : String :=
  if Quantity.isLess fallback request then request else fallback

/-- Takes what is missing from a profile. -/
def fill (p : ResourceProfile) (r : Resources) : Resources where
  cpu := some (r.cpu.getD p.cpu)
  cpuLimit := some (r.cpuLimit.getD (limitFor (r.cpu.getD p.cpu) p.cpuLimit))
  memory := some (r.memory.getD p.memory)
  memoryLimit := some (r.memoryLimit.getD (limitFor (r.memory.getD p.memory) p.memoryLimit))
  storage := some (r.storage.getD p.storage)
  storageClass := r.storageClass

/-- What is given must be a quantity. -/
def quantityRule (field : FieldPath) (value : Option String) : Report :=
  Report.ofSome value fun v =>
    Report.when (Quantity.ofText? v).isNone (.invalid field (.text v) "must be a valid quantity")

/-- A limit must not be below the request of the given name. -/
def limitRule (field : FieldPath) (name : String) (request limit : Option String) : Report :=
  Report.ofSome request fun request =>
    Report.ofSome limit fun limit =>
      Report.when (Quantity.isLess limit request)
        (.invalid field (.text limit)
          ("must be greater than or equal to " ++ name ++ " " ++ request))

/-- What is wrong with the requests by themselves. -/
def problems (r : Resources) (path : FieldPath) : Report :=
  quantityRule (path.child "cpu") r.cpu ++
  quantityRule (path.child "cpuLimit") r.cpuLimit ++
  quantityRule (path.child "memory") r.memory ++
  quantityRule (path.child "memoryLimit") r.memoryLimit ++
  quantityRule (path.child "storage") r.storage ++
  limitRule (path.child "cpuLimit") "cpu" r.cpu r.cpuLimit ++
  limitRule (path.child "memoryLimit") "memory" r.memory r.memoryLimit

/-- Storage must not shrink. -/
def storageRule (old new : Resources) (path : FieldPath) : Report :=
  Report.ofSome new.storage fun s =>
    Report.ofSome old.storage fun t =>
      Report.when (Quantity.isLess s t)
        (.invalid (path.child "storage") (.text s)
          ("must be greater than or equal to old storage " ++ t))

/-- What must not change: storage must not shrink, and its class must stay. -/
def transitions (old new : Resources) (path : FieldPath) : Report :=
  storageRule old new path ++
  Report.when (new.storageClass ≠ old.storageClass)
    (.immutable (path.child "storageClass") (.text (new.storageClass.getD "")))

end Resources

end Nodewright
