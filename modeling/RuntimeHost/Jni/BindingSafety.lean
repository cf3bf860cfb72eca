import RuntimeHost.Jni.BoundMethods

namespace RuntimeHost.Jni

open Foundation Function Java Native System Joint

variable {Tid : Type} [DecidableEq Tid] {t : Tid}

section Refinement

end Refinement

section Loaded

end Loaded

end RuntimeHost.Jni
