import Nodewright.Admission

/-! # Sessions

A session holds the manifests admitted so far by their names, and the images in force. A manifest
that is applied takes the place of the admitted one of its name; if it is rejected, nothing
changes. -/

namespace Nodewright

/-- The manifests admitted so far, and the images in force. -/
structure Session where
  images : Image.Overrides
  store : Keyed Manifest

namespace Session

/-- A session in which nothing has been admitted. -/
def start (images : Image.Overrides) : Session := ⟨images, .empty⟩

/-- The manifest admitted under a name. -/
def get? (s : Session) (name : String) : Option Manifest := s.store.get? name

/-- Admits a manifest in the place of that of its name, and stores it filled. -/
def apply (s : Session) (m : Manifest) : Except Rejection (Admitted × Session) :=
  match m.admission s.images (s.get? m.name) with
  | .ok a => .ok (a, { s with store := s.store.insert m.name a.manifest })
  | .error r => .error r

/-- Forgets the manifest of a name. -/
def delete (s : Session) (name : String) : Session := { s with store := s.store.erase name }

/-- Puts an image under a key. -/
def setImage (s : Session) (key image : String) : Session :=
  { s with images := s.images.set key image }

/-- Puts the images of a configuration over those in force. -/
def mergeImages (s : Session) (images : Image.Overrides) : Session :=
  { s with images := s.images.merge images }

/-- What happens in a session. -/
inductive Event where
  | apply (m : Manifest)
  | delete (name : String)
  | setImage (key image : String)
  | mergeImages (images : Image.Overrides)

/-- The session behind an event. -/
def after (s : Session) : Event → Session
  | .apply m =>
    match s.apply m with
    | .ok (_, s) => s
    | .error _ => s
  | .delete name => s.delete name
  | .setImage key image => s.setImage key image
  | .mergeImages images => s.mergeImages images

/-- The session behind several events, one after the other. -/
def run (s : Session) (events : List Event) : Session := events.foldl after s

end Session

end Nodewright
