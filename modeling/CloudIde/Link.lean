import CloudIde.Json.Wire

/-!
# Links

A descriptor of a stored thing carries links to the operations that its reader may perform on it.
-/

namespace CloudIde

/-- A link to an operation. -/
structure Link where
  /-- The URL of the operation. -/
  href : String
  /-- What the operation is to the thing. -/
  rel : String
  /-- The HTTP method. -/
  method : String
  /-- The media type of the answer, when it has a body. -/
  produces : Option String
  deriving DecidableEq, Repr

namespace Link

/-- A link for reading a JSON document. -/
def get (href rel : String) : Link := ⟨href, rel, "GET", some "application/json"⟩

/-- A link for removing, which is answered without a body. -/
def delete (href rel : String) : Link := ⟨href, rel, "DELETE", none⟩

end Link

instance : Wire Link where
  shape := .record "Link"
    (.cons "href" .required (.leaf .text)
    (.cons "rel" .required (.leaf .text)
    (.cons "method" .required (.leaf .text)
    (.cons "produces" .omittable (.nullable (.leaf .text)) .nil))))
  toVal l := (l.href, l.rel, l.method, l.produces, ())
  ofVal := fun (href, rel, method, produces, ()) => ⟨href, rel, method, produces⟩

end CloudIde
