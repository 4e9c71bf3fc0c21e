import Splice.Value.Member

/-!
# Members on the inside

Values have members that are not for use: those that every value has, those of its type, and a few
more. Their names begin with two underscores, nearly always. The filter language does not give them
away, but it knows which ones there are, because it says so.
-/

namespace Splice.Filter

open Value (wordsOf)

/-- Members on the inside that every value has. -/
def commonNames : List String :=
  wordsOf <| "__class__ __delattr__ __dir__ __doc__ __eq__ __format__ __ge__ __getattribute__ " ++
    "__getstate__ __gt__ __hash__ __init__ __init_subclass__ __le__ __lt__ __ne__ __new__ " ++
    "__reduce__ __reduce_ex__ __repr__ __setattr__ __sizeof__ __str__ __subclasshook__"

/-- Members of numbers on the inside. -/
def numberNames : List String :=
  wordsOf <| "__abs__ __add__ __bool__ __ceil__ __divmod__ __float__ __floor__ __floordiv__ " ++
    "__getnewargs__ __int__ __mod__ __mul__ __neg__ __pos__ __pow__ __radd__ __rdivmod__ " ++
    "__rfloordiv__ __rmod__ __rmul__ __round__ __rpow__ __rsub__ __rtruediv__ __sub__ " ++
    "__truediv__ __trunc__"

/-- Members of whole numbers on the inside, other than those of all numbers. -/
def wholeNames : List String :=
  wordsOf <| "__and__ __index__ __invert__ __lshift__ __or__ __rand__ __rlshift__ __ror__ " ++
    "__rrshift__ __rshift__ __rxor__ __xor__"

/-- Members of sequences on the inside. -/
def sequenceNames : List String :=
  wordsOf "__add__ __contains__ __getitem__ __iter__ __len__ __mul__ __rmul__"

/-- Members of what can change its items on the inside. -/
def changeNames : List String :=
  wordsOf "__delitem__ __iadd__ __imul__ __setitem__"

/-- Members of dictionaries on the inside. -/
def dictNames : List String :=
  wordsOf <| "__class_getitem__ __contains__ __delitem__ __getitem__ __ior__ __iter__ __len__ " ++
    "__or__ __reversed__ __ror__ __setitem__"

/-- Members of sets on the inside. -/
def setNames : List String :=
  wordsOf <| "__and__ __contains__ __iter__ __len__ __or__ __rand__ __ror__ __rsub__ __rxor__ " ++
    "__sub__ __xor__"

/-- Members of undefined values on the inside. -/
def undefinedNames : List String :=
  wordsOf <| "__add__ __bool__ __call__ __complex__ __div__ __float__ __floordiv__ __getattr__ " ++
    "__getitem__ __int__ __iter__ __len__ __mod__ __module__ __mul__ __neg__ __pos__ __pow__ " ++
    "__radd__ __rdiv__ __rfloordiv__ __rmod__ __rmul__ __rpow__ __rsub__ __rtruediv__ __slots__ " ++
    "__sub__ __truediv__ _fail_with_undefined_error _undefined_exception _undefined_hint " ++
    "_undefined_message _undefined_name _undefined_obj"

/-- Members on the inside that a value has because of its type. -/
def typeNames : Value → List String
  | .null => ["__bool__"]
  | .bool _ | .int _ => numberNames ++ wholeNames
  | .real _ => "__getformat__" :: numberNames
  | .text _ => "__getnewargs__" :: "__mod__" :: "__rmod__" :: sequenceNames
  | .bytes _ => "__bytes__" :: "__getnewargs__" :: "__mod__" :: "__rmod__" :: sequenceNames
  | .buffer _ => "__alloc__" :: "__mod__" :: "__rmod__" :: (sequenceNames ++ changeNames)
  | .list _ => "__class_getitem__" :: "__reversed__" :: (sequenceNames ++ changeNames)
  | .tuple _ => "__class_getitem__" :: "__getnewargs__" :: sequenceNames
  | .set _ =>
    ["__class_getitem__", "__iand__", "__ior__", "__isub__", "__ixor__"] ++ setNames
  | .dict _ => dictNames
  | .view .values _ => wordsOf "__iter__ __len__ __reversed__"
  | .view _ _ => "__reversed__" :: setNames
  | .range .. => wordsOf "__bool__ __contains__ __getitem__ __iter__ __len__ __reversed__"
  | .stream .given _ => wordsOf "__iter__ __length_hint__ __next__ __setstate__"
  | .stream .computed _ =>
    wordsOf "__del__ __iter__ __name__ __next__ __qualname__ gi_code gi_frame"
  | .object _ | .mute _ => wordsOf "__dict__ __module__ __weakref__"
  | .inert .. => wordsOf "__dict__ __getitem__ __module__ __weakref__"
  | .failure _ =>
    wordsOf "__cause__ __context__ __dict__ __setstate__ __suppress_context__ __traceback__"
  | .type _ =>
    wordsOf <| "__base__ __bases__ __basicsize__ __call__ __dict__ __dictoffset__ __flags__ " ++
      "__instancecheck__ __itemsize__ __module__ __mro__ __name__ __or__ __prepare__ " ++
      "__qualname__ __ror__ __subclasscheck__ __subclasses__ __text_signature__ " ++
      "__weakrefoffset__ mro"
  | .builtin .shortRange =>
    wordsOf <| "__annotations__ __builtins__ __call__ __closure__ __code__ __defaults__ " ++
      "__dict__ __get__ __globals__ __kwdefaults__ __module__ __name__ __qualname__"
  | .builtin _ | .method .. =>
    wordsOf "__call__ __module__ __name__ __qualname__ __self__ __text_signature__"
  | .undefined why =>
    if why.isLenient then undefinedNames else "__contains__" :: undefinedNames

/-- Whether a value has a member on the inside of this name. -/
def isInner (v : Value) (name : String) : Bool :=
  commonNames.contains name || (typeNames v).contains name

end Splice.Filter
