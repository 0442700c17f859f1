import VoxelCache.Workbench.Basic

/-!
# Carrying out commands

`Workbench.step` carries out one command; there is no reply if the command names
something that is not on the workbench.  `Workbench.run` carries out commands in
order and gives each reply the journal lines that its command wrote.
-/

namespace VoxelCache

section Run

namespace Workbench

section Buckets

/-- Reply to a command about one bucket. -/
def bucketReply (w : Workbench) (ref : BucketRef) (answer : Answer) : Reply × Workbench :=
  (⟨.ok answer, .bucket (w.scene.bucket ref)⟩, w)

/-- What a labeling lets happen to the bucket. -/
def meanwhileAct : Meanwhile → Bucket → Bucket × List Post
  | .nothing, b => (b, [])
  | .collect, b => b.collect
  | .receive payload, b => b.receive payload
  | .read, b => (b, [])

/-- Relabel a bucket; reading shows the payload from before. -/
def label
    (w : Workbench) (ref : BucketRef) (edits : List Edit) (meanwhile : Meanwhile) :
    Reply × Workbench :=
  let before := (w.scene.bucket ref).payload
  let seen :=
    match meanwhile with
    | .read => before
    | _ => none
  let (labeled, scene) := w.scene.label ref edits (meanwhileAct meanwhile)
  { w with scene := scene }.bucketReply ref (.labeled labeled seen)

/-- Carry out a command about one bucket. -/
def onBucket (w : Workbench) (handle : String)
    (command : BucketRef → Option (Reply × Workbench)) :
    Option (Reply × Workbench) :=
  (w.handles.find? handle).bind command

/-- Change the scene and reply with the state of a bucket. -/
def change (w : Workbench) (ref : BucketRef) (scene : Scene) (answer : Answer) :
    Option (Reply × Workbench) :=
  some ({ w with scene := scene }.bucketReply ref answer)

end Buckets

section Mailboxes

/-- Close a mailbox that may be open under a name. -/
def forgetMailbox (w : Workbench) (name : String) : Workbench :=
  match w.mailboxes.find? name with
  | some ref =>
      { w with
        scene := w.scene.closeMailbox ref
        mailboxes := w.mailboxes.erase name }
  | none => w

/-- Open a mailbox under a name. -/
def openMailbox (w : Workbench) (name : String) : Workbench :=
  let w := w.forgetMailbox name
  let (ref, scene) := w.scene.openMailbox
  { w with scene := scene, mailboxes := w.mailboxes.insert name ref }

end Mailboxes

section Tools

/-- A reply without state. -/
def plainReply (w : Workbench) (answer : Answer) : Option (Reply × Workbench) :=
  some (⟨.ok answer, .unreported⟩, w)

/-- Carry out a command on the pool. -/
def onPool (w : Workbench)
    (command : Pool → Except Fault Answer × Pool × Scene) :
    Option (Reply × Workbench) :=
  w.pool.map fun pool =>
    let (outcome, pool, scene) := command pool
    (⟨outcome, poolAftermath pool⟩, { w with pool := some pool, scene := scene })

/-- Hold a bucket of a pool under a name, if one is given, and then reply with it. -/
def showBucket (w : Workbench) (found : Option BucketRef) (name : Option String)
    (aftermath : Aftermath) :
    Option (Reply × Workbench) :=
  match found with
  | none => some (⟨.ok (.bucket none), aftermath⟩, w)
  | some ref =>
      let w := w.name name ref
      some (⟨.ok (.bucket (some (w.bucketView ref))), aftermath⟩, w)

/-- Obtain a bucket from the pool. -/
def poolObtain (w : Workbench) (address : Address) (name : Option String) :
    Option (Reply × Workbench) :=
  w.pool.bind fun pool =>
    match pool.obtain w.scene address with
    | (.error fault, pool, scene) =>
        some (⟨.error fault, poolAftermath pool⟩,
          { w with pool := some pool, scene := scene })
    | (.ok ref, pool, scene) =>
        { w with pool := some pool, scene := scene }.showBucket (some ref) name
          (poolAftermath pool)

/-- Carry out a command on the residency. -/
def onResidency (w : Workbench) {α : Type} (answer : α → Answer)
    (command : Residency → Except Fault α × Residency × Scene) :
    Option (Reply × Workbench) :=
  w.residency.map fun residency =>
    let (outcome, residency, scene) := command residency
    (⟨outcome.map answer, residencyAftermath residency⟩,
      { w with residency := some residency, scene := scene })

/-- Carry out a command on the viewer. -/
def onViewer (w : Workbench) {α : Type} (answer : α → Answer)
    (command : Viewer → Except Fault α × Viewer × Scene) :
    Option (Reply × Workbench) :=
  w.viewer.map fun viewer =>
    let (outcome, viewer, scene) := command viewer
    (⟨outcome.map answer, viewerAftermath viewer⟩,
      { w with viewer := some viewer, scene := scene })

/-- Give up the residency. -/
def dropResidency (w : Workbench) : Workbench :=
  match w.residency with
  | some m => { w with residency := none, scene := w.scene.closeMailbox m.mailbox }
  | none => w

/-- Give up the viewer. -/
def dropViewer (w : Workbench) : Workbench :=
  match w.viewer with
  | some v => { w with viewer := none, scene := w.scene.closeMailbox v.residency.mailbox }
  | none => w

/-- Replace the residency. -/
def newResidency (w : Workbench) (width textures packing : Nat) (settings : Settings) :
    Reply × Workbench :=
  let w := w.dropResidency
  match Residency.create w.scene width textures packing settings with
  | (.error fault, scene) => (⟨.error fault, .unreported⟩, { w with scene := scene })
  | (.ok m, scene) =>
      (⟨.ok (.residency m.capacity m.layout.packing), residencyAftermath m⟩,
        { w with residency := some m, scene := scene })

/-- Replace the viewer. -/
def newViewer (w : Workbench) (pyramid : Pyramid Float) (plan : TexturePlan)
    (settings : Settings) :
    Reply × Workbench :=
  let w := w.dropViewer
  match Viewer.create w.scene settings pyramid plan with
  | (.error fault, scene) => (⟨.error fault, .unreported⟩, { w with scene := scene })
  | (.ok v, scene) =>
      (⟨.ok (.viewer (residencyView v.residency)), .unreported⟩,
        { w with viewer := some v, scene := scene })

end Tools

section Textures

/-- Create textures on a tape from now on, with the given failures to come. -/
def newTapes (w : Workbench) (updateFuse createFuse : Fuse) : Workbench :=
  let (tape, device) :=
    match w.tape with
    | some tape => (tape, w.scene.device)
    | none => w.scene.device.addTape
  let contents := { device.tape tape with updateFuse := updateFuse, createFuse := createFuse }
  { w with
    tape := some tape
    scene := { w.scene with device := device.setTape tape contents } }

/-- Create rasters with a switch of their own from now on. -/
def newRasters (w : Workbench) (isReady : Bool) : Workbench :=
  let (switch, device) := w.scene.device.addSwitch isReady
  { w with switch := switch, tape := none, scene := { w.scene with device := device } }

def setReady (w : Workbench) (isReady : Bool) : Workbench :=
  { w with
    scene := { w.scene with device := w.scene.device.setSwitch w.switch isReady } }

/-- Create one texture. -/
def newTexture (w : Workbench) (width channels : Nat) (component : Component) :
    Reply × Workbench :=
  match w.scene.createTexture w.factory width channels component with
  | (.error fault, scene) => (⟨.error fault, .unreported⟩, { w with scene := scene })
  | (.ok ref, scene) =>
      let w := { w with scene := scene, textures := w.textures ++ [ref] }
      (⟨.ok (.texture (w.textureView ref)), .unreported⟩, w)

/-- Write to a texture that was created alone. -/
def updateTexture (w : Workbench) (index : Nat) (data : ByteArray) (rect : Rect) :
    Option (Reply × Workbench) :=
  w.textures[index]?.map fun ref =>
    let (outcome, scene) := w.scene.updateTexture ref data rect
    (⟨outcome.map fun _ => .done, .unreported⟩, { w with scene := scene })

/-- The rasters of the current switch, in order of creation. -/
def rasters (w : Workbench) : List Raster :=
  w.scene.device.rastersOf w.switch

/-- Take the recorded writes from the current tape. -/
def takeRecordings (w : Workbench) : Option (Reply × Workbench) :=
  match w.tape with
  | none => w.plainReply (.recordings [])
  | some index =>
      let tape := w.scene.device.tape index
      let device := w.scene.device.setTape index { tape with recordings := [] }
      { w with scene := { w.scene with device := device } }.plainReply
        (.recordings tape.recordings)

end Textures

/-- Carry out one command. -/
def step (w : Workbench) : Command → Option (Reply × Workbench)
  | .newBucket name id address coarser =>
      let link :=
        match coarser with
        | some handle => (w.handles.find? handle).map some
        | none => some none
      link.bind fun coarser =>
        let (ref, scene) := w.scene.addBucket (.create id address coarser)
        let w := { w with scene := scene }
        some (⟨.ok (.bucket (some (w.bucketView ref))), .unreported⟩, w.name (some name) ref)
  | .drop handle =>
      { w with handles := w.handles.erase handle }.plainReply
        (.flag (w.handles.find? handle).isSome)
  | .pull handle =>
      w.onBucket handle fun ref =>
        let (pulled, scene) := w.scene.pull ref
        w.change ref scene (.flag pulled)
  | .receive handle payload =>
      w.onBucket handle fun ref => w.change ref (w.scene.receive ref payload) .done
  | .collect handle =>
      w.onBucket handle fun ref => w.change ref (w.scene.collect ref) .done
  | .visualize handle shown =>
      w.onBucket handle fun ref => w.change ref (w.scene.visualize ref shown) .done
  | .label handle edits meanwhile =>
      w.onBucket handle fun ref => some (w.label ref edits meanwhile)
  | .subscribe handle mailbox name interest =>
      w.onBucket handle fun ref =>
        (w.mailboxes.find? mailbox).bind fun target =>
          let (id, scene) := w.scene.subscribe ref interest target
          let subscriptions :=
            match name with
            | some name => w.subscriptions.insert name id
            | none => w.subscriptions
          { w with subscriptions := subscriptions }.change ref scene (.subscribed id)
  | .unsubscribe handle subscription =>
      w.onBucket handle fun ref =>
        (w.subscriptions.find? subscription).bind fun id =>
          w.change ref (w.scene.unsubscribe ref id) .done
  | .inspect handle =>
      w.onBucket handle fun ref => w.plainReply (.bucket (some (w.bucketView ref)))
  | .openMailbox name => (w.openMailbox name).plainReply .done
  | .drain name =>
      (w.mailboxes.find? name).bind fun ref =>
        let (notices, scene) := w.scene.drain ref
        { w with scene := scene }.plainReply (.notices notices)
  | .closeMailbox name =>
      (w.mailboxes.find? name).bind fun ref =>
        let wasOpen := (w.scene.mailbox ref).isOpen
        { w with scene := w.scene.closeMailbox ref }.plainReply (.flag wasOpen)
  | .newPool pyramid => { w with pool := some (.create pyramid) }.plainReply .done
  | .poolFind address name =>
      w.pool.bind fun pool => w.showBucket (pool.find? address) name (poolAftermath pool)
  | .poolObtain address name => w.poolObtain address name
  | .poolReceive address payload =>
      w.onPool fun pool =>
        let (known, scene) := pool.receive w.scene address payload
        (.ok (.flag known), pool, scene)
  | .poolCollect address =>
      w.onPool fun pool =>
        let (known, pool, scene) := pool.collect w.scene address
        (.ok (.flag known), pool, scene)
  | .poolGarbage =>
      w.onPool fun pool =>
        let (collected, pool, scene) := pool.collectGarbage w.scene w.isHeldOutsidePool
        (.ok (.count collected), pool, scene)
  | .newRasters isReady => (w.newRasters isReady).plainReply .done
  | .setReady isReady => (w.setReady isReady).plainReply .done
  | .newTapes updateFuse createFuse => (w.newTapes updateFuse createFuse).plainReply .done
  | .newTexture width channels component => some (w.newTexture width channels component)
  | .updateTexture index data rect => w.updateTexture index data rect
  | .inspectTexture index =>
      w.textures[index]?.bind fun ref => w.plainReply (.texture (w.textureView ref))
  | .countRasters => w.plainReply (.count w.rasters.length)
  | .inspectRaster index => w.plainReply (.raster w.rasters[index]?)
  | .takeRecordings => w.takeRecordings
  | .newResidency width textures packing settings =>
      some (w.newResidency width textures packing settings)
  | .setUp bytes =>
      w.onResidency (fun _ => .done) fun m => m.setUp w.scene w.factory bytes
  | .activate handles anchor =>
      (handles.mapM w.handles.find?).bind fun refs =>
        w.onResidency (fun _ => .done) fun m =>
          m.activate w.scene w.isHeldOutsideResidency refs anchor
  | .release handle =>
      w.onBucket handle fun ref =>
        w.onResidency (fun _ => .done) fun m =>
          (.ok (), m.release w.scene (w.scene.bucket ref).id)
  | .clear =>
      w.onResidency (fun _ => .done) fun m => m.clear w.scene w.isHeldOutsideResidency
  | .tick =>
      w.onResidency .count fun m =>
        m.tick w.scene w.isHeldOutsideResidency frameAllowance
  | .work allowance => w.onResidency .count fun m => m.work w.scene allowance
  | .readNotices =>
      w.onResidency (fun _ => .done) fun m => (.ok (), m.readNotices w.scene)
  | .refresh =>
      w.onResidency (fun _ => .done) fun m => m.refresh w.scene w.isHeldOutsideResidency
  | .listTextures =>
      w.onResidency .textures fun m => (.ok (m.textures.map w.textureView), m, w.scene)
  | .newViewer pyramid plan settings => some (w.newViewer pyramid plan settings)
  | .viewerSetUp bytes =>
      w.onViewer (fun _ => .done) fun v => v.setUp w.scene w.factory bytes
  | .viewerUpdate camera =>
      w.onViewer (fun _ => .done) fun v => v.update w.scene w.isHeldOutsideViewer camera
  | .viewerTake count =>
      w.onViewer .addresses fun v =>
        let (given, v, scene) := v.take w.scene count
        (.ok given, v, scene)
  | .viewerLoad count payload =>
      w.onViewer .addresses fun v =>
        let (given, v, scene) := v.take w.scene count
        (.ok given, v, given.foldl (fun s a => (v.receive s a payload).2) scene)
  | .viewerReceive address payload =>
      w.onViewer .flag fun v =>
        let (known, scene) := v.receive w.scene address payload
        (.ok known, v, scene)
  | .viewerTick =>
      w.onViewer .count fun v => v.tick w.scene w.isHeldOutsideViewer frameAllowance
  | .viewerGarbage =>
      w.onViewer .count fun v =>
        let (collected, v, scene) := v.collectGarbage w.scene w.isHeldOutsideViewer
        (.ok collected, v, scene)
  | .viewerFind address name =>
      w.viewer.bind fun v =>
        w.showBucket (v.pool.find? address) name (viewerAftermath v)

/-- Carry out commands in order; each reply comes with the lines its command wrote. -/
def run (w : Workbench) : List Command → Option (List (Reply × Journal))
  | [] => some []
  | command :: rest =>
      match w.step command with
      | none => none
      | some (reply, w) =>
          let lines := w.scene.journal
          let w := { w with scene := { w.scene with journal := [] } }
          (w.run rest).map fun replies => (reply, lines) :: replies

end Workbench

end Run

end VoxelCache
