import PackedAttributes.AttributeSet
import PackedAttributes.Event

/-!
Requests: a selection folded into masks, with the options of the call.

The options are 64 bits of which twelve have a name, and unknown bits are kept and handed on.

A selection keeps the attributes that a caller wants in the order in which they were first named, and
naming one again changes nothing. Extended attributes travel in a mask that the kernel reads as
theirs only under an option, so that option is switched on whenever an extended attribute is wanted.
Volume attributes need a marker bit, which is added when the request is handed to the kernel.
-/
namespace PackedAttributes

/-! ## Options -/

/-- An option with a name, in the order of the bits. -/
inductive OptionFlag where
  | noFollow | noInMemoryUpdate | reportFullSize | packInvalidAttributes | exchangeDataOnly
  | useExtendedCommonAttributes | listSnapshot | noFirmlinkPath | followFirmlink
  | returnRealDevice | utimesNull | noFollowAny
  deriving DecidableEq, Repr

namespace OptionFlag

/-- All options with a name, from the lowest bit to the highest. -/
def all : List OptionFlag :=
  [.noFollow, .noInMemoryUpdate, .reportFullSize, .packInvalidAttributes, .exchangeDataOnly,
   .useExtendedCommonAttributes, .listSnapshot, .noFirmlinkPath, .followFirmlink,
   .returnRealDevice, .utimesNull, .noFollowAny]

/-- The bit of the option. -/
def mask : OptionFlag → UInt64
  | .noFollow => 0x001
  | .noInMemoryUpdate => 0x002
  | .reportFullSize => 0x004
  | .packInvalidAttributes => 0x008
  | .exchangeDataOnly => 0x010
  | .useExtendedCommonAttributes => 0x020
  | .listSnapshot => 0x040
  | .noFirmlinkPath => 0x080
  | .followFirmlink => 0x100
  | .returnRealDevice => 0x200
  | .utimesNull => 0x400
  | .noFollowAny => 0x800

/-- The name of the option. -/
def name : OptionFlag → String
  | .noFollow => "NO_FOLLOW"
  | .noInMemoryUpdate => "NO_IN_MEMORY_UPDATE"
  | .reportFullSize => "REPORT_FULL_SIZE"
  | .packInvalidAttributes => "PACK_INVALID_ATTRIBUTES"
  | .exchangeDataOnly => "EXCHANGE_DATA_ONLY"
  | .useExtendedCommonAttributes => "USE_EXTENDED_COMMON_ATTRIBUTES"
  | .listSnapshot => "LIST_SNAPSHOT"
  | .noFirmlinkPath => "NO_FIRMLINK_PATH"
  | .followFirmlink => "FOLLOW_FIRMLINK"
  | .returnRealDevice => "RETURN_REAL_DEVICE"
  | .utimesNull => "UTIMES_NULL"
  | .noFollowAny => "NO_FOLLOW_ANY"

end OptionFlag

/-- The options of a call. -/
structure Options where
  /-- All bits, with and without a name. -/
  bits : UInt64
  deriving DecidableEq, Repr

namespace Options

/-- No option. -/
def none : Options := ⟨0⟩

/-- Only the given option. -/
def ofFlag (flag : OptionFlag) : Options := ⟨flag.mask⟩

/-- Whether an option is switched on. -/
def contains (options : Options) (flag : OptionFlag) : Bool :=
  options.bits &&& flag.mask == flag.mask

/-- Switches an option on. -/
def insert (options : Options) (flag : OptionFlag) : Options :=
  ⟨options.bits ||| flag.mask⟩

/-- The options with a name that are switched on, from the lowest bit to the highest. -/
def flags (options : Options) : List OptionFlag :=
  OptionFlag.all.filter options.contains

end Options

/-! ## Selections -/

/-- A list of wanted attributes without repetition. -/
structure Selection where
  /-- The wanted attributes in the order in which they were first named. -/
  attributes : List Attribute
  deriving DecidableEq, Repr

namespace Selection

/-- The selection of nothing. -/
def empty : Selection := ⟨[]⟩

/-- Whether an attribute is selected. -/
def contains (selection : Selection) (attr : Attribute) : Bool :=
  selection.attributes.contains attr

/-- Adds an attribute at the end unless it is selected already. -/
def insert (selection : Selection) (attr : Attribute) : Selection :=
  if selection.contains attr then selection else ⟨selection.attributes ++ [attr]⟩

/-- The selection with one more attribute, for selections that are put together in one expression. -/
def including (selection : Selection) (attr : Attribute) : Selection :=
  selection.insert attr

/-- Adds attributes one after the other. -/
def insertAll (selection : Selection) (attrs : List Attribute) : Selection :=
  attrs.foldl insert selection

/-- The selection of the given attributes. -/
def ofList (attrs : List Attribute) : Selection :=
  empty.insertAll attrs

/-- Adds every attribute of a category that the kernel accepts. -/
def insertCategory (selection : Selection) (category : Category) : Selection :=
  selection.insertAll ((Attribute.inCategory category).filter Attribute.isRequestable)

/-- The number of selected attributes. -/
def size (selection : Selection) : Nat :=
  selection.attributes.length

/-- Whether nothing is selected. -/
def isEmpty (selection : Selection) : Bool :=
  selection.attributes.isEmpty

end Selection

/-! ## Requests -/

/-- The masks of a request in the form that the kernel takes. -/
structure AttributeList where
  /-- The number of masks. -/
  maskCount : UInt16
  /-- Always zero. -/
  reserved : UInt16
  /-- The common attributes. -/
  common : UInt32
  /-- The volume attributes with their marker. -/
  volume : UInt32
  /-- The directory attributes. -/
  directory : UInt32
  /-- The file attributes. -/
  file : UInt32
  /-- The fork attributes or, under the option for them, the extended common attributes. -/
  fork : UInt32
  deriving DecidableEq, Repr

/-- A request for attributes. -/
structure Request where
  /-- The requested attributes, without the marker of volume requests unless the caller set it. -/
  attributes : AttributeSet
  /-- The options of the call. -/
  options : Options
  deriving DecidableEq, Repr

namespace Request

/-- The request for the attributes of a set. Bits that the kernel refuses are dropped first, and the
option for extended attributes follows from what is left. -/
def ofSet (set : AttributeSet) (options : Options) : Request where
  attributes := set.clamp
  options :=
    if set.clamp.extended != 0 then options.insert .useExtendedCommonAttributes else options

/-- What is reported while a request is made: that the option for extended attributes was missing
and had to be switched on. -/
def ofSetEvents (set : AttributeSet) (options : Options) : List Event :=
  if set.clamp.extended != 0 && !options.contains .useExtendedCommonAttributes then
    [.extendedForced set.clamp.extended]
  else []

/-- The request for a set together with what is reported about it. -/
def traceOfSet {ε : Type} (set : AttributeSet) (options : Options) : Traced ε Request :=
  ⟨ofSetEvents set options, .ok (ofSet set options)⟩

/-- Folds selected attributes into masks, up to the first one that the kernel refuses. -/
def fold (set : AttributeSet) : List Attribute → Except Failure AttributeSet
  | [] => .ok set
  | attr :: rest =>
    if attr.isRequestable then fold (set.insert attr) rest
    else .error (.invalidAttribute attr)

/-- The request for a selection, with what is reported about it. -/
def build (selection : Selection) (options : Options) : Traced Failure Request := do
  let set ← Traced.silently (fold .empty selection.attributes)
  traceOfSet set options

/-- The request that also asks which attributes are returned. -/
def withReturnedAttributes (request : Request) : Request :=
  { request with
    attributes := request.attributes.insert .returnedAttributes }

/-- The request that also asks which attributes are returned, if that is wanted. -/
def returning (request : Request) (wanted : Bool) : Request :=
  if wanted then request.withReturnedAttributes else request

/-- Whether the kernel will say which attributes it returns. -/
def returnsSet (request : Request) : Bool :=
  request.attributes.contains .returnedAttributes

/-- The masks as the kernel takes them. -/
def attributeList (request : Request) : AttributeList where
  maskCount := 5
  reserved := 0
  common := request.attributes.common
  volume :=
    if request.attributes.volume != 0 then request.attributes.volume ||| volumeMarker else 0
  directory := request.attributes.directory
  file := request.attributes.file
  fork := request.attributes.extended

end Request

end PackedAttributes
