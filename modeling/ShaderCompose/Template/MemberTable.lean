import ShaderCompose.Text.Basic

/-!
# The members that values have

The names of the functions that come with every value of a kind, and of those members that stand for
an operation.
-/

set_option autoImplicit false

namespace ShaderCompose.Template.MemberTable

/-- The names in a text, with blanks between them. -/
def namesIn (t : String) : List Text := Text.pieces ' ' t.toList

/-- The functions that values of every kind have. -/
def commonMethods : List Text := namesIn
  ("__dir__ __format__ __getstate__ __init_subclass__ __new__ __reduce__ __reduce_ex__ " ++
   "__sizeof__ __subclasshook__")

/-- The operations that values of every kind have. -/
def commonOperations : List Text := namesIn
  ("__delattr__ __eq__ __ge__ __getattribute__ __gt__ __hash__ __init__ __le__ __lt__ " ++
   "__ne__ __repr__ __setattr__ __str__")

/-- The operations of the absence of a value. -/
def noneOperations : List Text := namesIn
  "__bool__"

/-- The functions of integers and truth values. -/
def intMethods : List Text := namesIn
  ("__ceil__ __floor__ __getnewargs__ __round__ __trunc__ as_integer_ratio bit_count " ++
   "bit_length conjugate from_bytes to_bytes")

/-- The operations of integers and truth values. -/
def intOperations : List Text := namesIn
  ("__abs__ __add__ __and__ __bool__ __divmod__ __float__ __floordiv__ __index__ __int__ " ++
   "__invert__ __lshift__ __mod__ __mul__ __neg__ __or__ __pos__ __pow__ __radd__ " ++
   "__rand__ __rdivmod__ __rfloordiv__ __rlshift__ __rmod__ __rmul__ __ror__ __rpow__ " ++
   "__rrshift__ __rshift__ __rsub__ __rtruediv__ __rxor__ __sub__ __truediv__ __xor__")

/-- The functions of doubles. -/
def floatMethods : List Text := namesIn
  ("__ceil__ __floor__ __getformat__ __getnewargs__ __round__ __trunc__ as_integer_ratio " ++
   "conjugate fromhex hex is_integer")

/-- The operations of doubles. -/
def floatOperations : List Text := namesIn
  ("__abs__ __add__ __bool__ __divmod__ __float__ __floordiv__ __int__ __mod__ __mul__ " ++
   "__neg__ __pos__ __pow__ __radd__ __rdivmod__ __rfloordiv__ __rmod__ __rmul__ " ++
   "__rpow__ __rsub__ __rtruediv__ __sub__ __truediv__")

/-- The functions of complex numbers. -/
def complexMethods : List Text := namesIn
  "__complex__ __getnewargs__ conjugate"

/-- The operations of complex numbers. -/
def complexOperations : List Text := namesIn
  ("__abs__ __add__ __bool__ __mul__ __neg__ __pos__ __pow__ __radd__ __rmul__ __rpow__ " ++
   "__rsub__ __rtruediv__ __sub__ __truediv__")

/-- The functions of texts. -/
def textMethods : List Text := namesIn
  ("__getnewargs__ capitalize casefold center count encode endswith expandtabs find " ++
   "format format_map index isalnum isalpha isascii isdecimal isdigit isidentifier " ++
   "islower isnumeric isprintable isspace istitle isupper join ljust lower lstrip " ++
   "maketrans partition removeprefix removesuffix replace rfind rindex rjust rpartition " ++
   "rsplit rstrip split splitlines startswith strip swapcase title translate upper zfill")

/-- The operations of texts. -/
def textOperations : List Text := namesIn
  "__add__ __contains__ __getitem__ __iter__ __len__ __mod__ __mul__ __rmod__ __rmul__"

/-- The functions of byte strings. -/
def bytesMethods : List Text := namesIn
  ("__bytes__ __getnewargs__ capitalize center count decode endswith expandtabs find " ++
   "fromhex hex index isalnum isalpha isascii isdigit islower isspace istitle isupper " ++
   "join ljust lower lstrip maketrans partition removeprefix removesuffix replace rfind " ++
   "rindex rjust rpartition rsplit rstrip split splitlines startswith strip swapcase " ++
   "title translate upper zfill")

/-- The operations of byte strings. -/
def bytesOperations : List Text := namesIn
  "__add__ __contains__ __getitem__ __iter__ __len__ __mod__ __mul__ __rmod__ __rmul__"

/-- The functions of lists. -/
def listMethods : List Text := namesIn
  ("__class_getitem__ __getitem__ __reversed__ append clear copy count extend index " ++
   "insert pop remove reverse sort")

/-- The operations of lists. -/
def listOperations : List Text := namesIn
  ("__add__ __contains__ __delitem__ __iadd__ __imul__ __iter__ __len__ __mul__ __rmul__ " ++
   "__setitem__")

/-- The functions of tuples. -/
def tupleMethods : List Text := namesIn
  "__class_getitem__ __getnewargs__ count index"

/-- The operations of tuples. -/
def tupleOperations : List Text := namesIn
  "__add__ __contains__ __getitem__ __iter__ __len__ __mul__ __rmul__"

/-- The functions of dictionaries. -/
def dictMethods : List Text := namesIn
  ("__class_getitem__ __contains__ __getitem__ __reversed__ clear copy fromkeys get " ++
   "items keys pop popitem setdefault update values")

/-- The operations of dictionaries. -/
def dictOperations : List Text := namesIn
  "__delitem__ __ior__ __iter__ __len__ __or__ __ror__ __setitem__"

/-- The functions of ranges. -/
def rangeMethods : List Text := namesIn
  "__reversed__ count index"

/-- The operations of ranges. -/
def rangeOperations : List Text := namesIn
  "__bool__ __contains__ __getitem__ __iter__ __len__"

/-- The functions of the keys or the entries of a dictionary. -/
def keysMethods : List Text := namesIn
  "__reversed__ isdisjoint"

/-- The operations of the keys or the entries of a dictionary. -/
def keysOperations : List Text := namesIn
  ("__and__ __contains__ __iter__ __len__ __or__ __rand__ __ror__ __rsub__ __rxor__ " ++
   "__sub__ __xor__")

/-- The functions of the values of a dictionary. -/
def valuesMethods : List Text := namesIn
  "__reversed__"

/-- The operations of the values of a dictionary. -/
def valuesOperations : List Text := namesIn
  "__iter__ __len__"

/-- The operations of functions. -/
def methodOperations : List Text := namesIn
  "__call__"

/-- The functions of stretches. -/
def sliceMethods : List Text := namesIn
  "indices"

end ShaderCompose.Template.MemberTable
