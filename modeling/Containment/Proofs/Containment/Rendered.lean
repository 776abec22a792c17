import Containment.Proofs.Calendar.Reading
import Containment.Proofs.Containment.Constant
import Containment.Proofs.Schema.Textual

namespace Containment

open Text

/-! Dates and times where their own texts are given. -/

namespace Value

variable {constant : Value} {type : Scalar}

end Value

namespace Registry

variable {constant : Value} {type : Scalar}

end Registry

end Containment
