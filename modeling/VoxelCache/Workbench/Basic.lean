import VoxelCache.Workbench.Command

/-!
# The workbench

A workbench has one scene and at most one pool, one residency and one viewer on
it.  Buckets are held by names, by the pool, by the residency and by the viewer;
a bucket that none of them holds is gone.
-/

namespace VoxelCache

section Workbench

/-- Values by name; a later value replaces an earlier one. -/
abbrev Names (α : Type) := List (String × α)

namespace Names

variable {α : Type}

def find? (names : Names α) (name : String) : Option α :=
  names.lookup name

def erase (names : Names α) (name : String) : Names α :=
  names.filter fun entry => entry.1 != name

def insert (names : Names α) (name : String) (value : α) : Names α :=
  names.erase name ++ [(name, value)]

end Names

/-- A scene with the things that are tried out on it. -/
structure Workbench where
  scene : Scene
  handles : Names BucketRef
  mailboxes : Names MailboxRef
  subscriptions : Names SubscriptionId
  pool : Option Pool
  residency : Option Residency
  viewer : Option Viewer
  /-- The switch of the rasters that are created now. -/
  switch : Nat
  /-- The tape to which textures are created now, if no rasters are created. -/
  tape : Option Nat
  /-- The textures that were created one by one. -/
  textures : List TextureRef

namespace Workbench

/-- An empty workbench, on which ready rasters are created. -/
def empty : Workbench :=
  let (switch, device) := Device.empty.addSwitch true
  { scene := { Scene.empty with device := device }
    handles := []
    mailboxes := []
    subscriptions := []
    pool := none
    residency := none
    viewer := none
    switch := switch
    tape := none
    textures := [] }

section Holding

def isNamed (w : Workbench) (ref : BucketRef) : Bool :=
  w.handles.any fun entry => entry.2 == ref

def inPool (w : Workbench) (ref : BucketRef) : Bool :=
  w.pool.any (·.holds ref)

def isResident (w : Workbench) (ref : BucketRef) : Bool :=
  w.residency.any (·.holds ref)

def inViewer (w : Workbench) (ref : BucketRef) : Bool :=
  w.viewer.any (·.holds ref)

/-- Whether somebody holds a bucket. -/
def isHeld (w : Workbench) (ref : BucketRef) : Bool :=
  w.isNamed ref || w.inPool ref || w.isResident ref || w.inViewer ref

/-- Whether somebody other than the pool holds a bucket. -/
def isHeldOutsidePool (w : Workbench) (ref : BucketRef) : Bool :=
  w.isNamed ref || w.isResident ref || w.inViewer ref

/-- Whether somebody other than the residency holds a bucket. -/
def isHeldOutsideResidency (w : Workbench) (ref : BucketRef) : Bool :=
  w.isNamed ref || w.inPool ref || w.inViewer ref

/-- Whether somebody other than the viewer holds a bucket. -/
def isHeldOutsideViewer (w : Workbench) (ref : BucketRef) : Bool :=
  w.isNamed ref || w.inPool ref || w.isResident ref

end Holding

section Views

/-- What new textures are made of. -/
def factory (w : Workbench) : Factory :=
  match w.tape with
  | some tape => .tapes tape
  | none => .rasters w.switch

def bucketView (w : Workbench) (ref : BucketRef) : BucketView :=
  ⟨w.scene.bucket ref,
    (w.scene.coarser? w.isHeld ref).map fun c => (w.scene.bucket c).id⟩

def textureView (w : Workbench) (ref : TextureRef) : TextureView :=
  let texture := w.scene.device.texture ref
  ⟨texture.width, texture.texelBytes, w.scene.device.isReady ref, texture.isRaster⟩

def residencyView (m : Residency) : ResidencyView :=
  ⟨m.stats, m.anchor, m.lookUp⟩

def poolAftermath (p : Pool) : Aftermath :=
  .pool p.size p.pyramid.length

def residencyAftermath (m : Residency) : Aftermath :=
  .residency (residencyView m)

def viewerAftermath (v : Viewer) : Aftermath :=
  .viewer (residencyView v.residency) v.requests.size v.pool.size

end Views

/-- Hold a bucket under a name, if one is given. -/
def name (w : Workbench) (name : Option String) (ref : BucketRef) : Workbench :=
  match name with
  | some name => { w with handles := w.handles.insert name ref }
  | none => w

/-- Allowance of a commit pass with time to spare. -/
def frameAllowance : Residency.Allowance :=
  .unlimited

end Workbench

end Workbench

end VoxelCache
