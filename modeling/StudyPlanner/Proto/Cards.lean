import StudyPlanner.Proto.Message
/-!
# Wire messages: cards and their blocks

Each message lists its fields with their tags; `encode` writes them in tag order and
`step` reads one of them. Errors name the message and the field as the service's schema
does.
-/

namespace StudyPlanner.Proto

/-- A block of a card. -/
structure Block where
  kind : Int32 := 0
  content : String := ""
  metadata : String := ""
  extension : String := ""
  deriving DecidableEq, Repr, Inhabited

namespace Block

/-- The fields of a `Block`, in tag order. -/
def encode (m : Block) : List UInt8 :=
  int32Field 1 m.kind ++ stringField 2 m.content ++ stringField 3 m.metadata ++
    stringField 4 m.extension

/-- Reads one field of a `Block`. -/
def step : FieldStep Block := fun m tag w depth bs =>
  match tag with
  | 1 => field "Block" "r#type" (readInt32 w bs) fun v => { m with kind := v }
  | 2 => field "Block" "content" (readString w bs) fun v => { m with content := v }
  | 3 => field "Block" "metadata" (readString w bs) fun v => { m with metadata := v }
  | 4 => field "Block" "extension" (readString w bs) fun v => { m with extension := v }
  | _ => skipUnknown m tag w depth bs

instance : WireMessage Block := { encode, step }

end Block

/-- A card with its blocks. -/
structure Card where
  id : Int64 := 0
  headline : String := ""
  state : Int32 := 0
  position : Int32 := 0
  blocks : List Block := []
  deriving DecidableEq, Repr, Inhabited

namespace Card

/-- The fields of a `Card`, in tag order. -/
def encode (m : Card) : List UInt8 :=
  int64Field 1 m.id ++ stringField 2 m.headline ++ int32Field 3 m.state ++ int32Field 4 m.position ++
    repeatedField 5 Block.encode m.blocks

/-- Reads one field of a `Card`. -/
def step : FieldStep Card := fun m tag w depth bs =>
  match tag with
  | 1 => field "Card" "id" (readInt64 w bs) fun v => { m with id := v }
  | 2 => field "Card" "headline" (readString w bs) fun v => { m with headline := v }
  | 3 => field "Card" "state" (readInt32 w bs) fun v => { m with state := v }
  | 4 => field "Card" "position" (readInt32 w bs) fun v => { m with position := v }
  | 5 => field "Card" "blocks" (readNested Block.step default w depth bs) fun v =>
      { m with blocks := m.blocks ++ [v] }
  | _ => skipUnknown m tag w depth bs

instance : WireMessage Card := { encode, step }

end Card

/-- A list of cards. -/
structure CardList where
  cards : List Card := []
  deriving DecidableEq, Repr, Inhabited

namespace CardList

/-- The fields of a `CardList`, in tag order. -/
def encode (m : CardList) : List UInt8 :=
  repeatedField 1 Card.encode m.cards

/-- Reads one field of a `CardList`. -/
def step : FieldStep CardList := fun m tag w depth bs =>
  match tag with
  | 1 => field "CardList" "cards" (readNested Card.step default w depth bs) fun v =>
      { m with cards := m.cards ++ [v] }
  | _ => skipUnknown m tag w depth bs

instance : WireMessage CardList := { encode, step }

end CardList

/-- A new card of a section. -/
structure CreateCardRequest where
  sectionId : Int64 := 0
  headline : String := ""
  blocks : List Block := []
  deriving DecidableEq, Repr, Inhabited

namespace CreateCardRequest

/-- The fields of a `CreateCardRequest`, in tag order. -/
def encode (m : CreateCardRequest) : List UInt8 :=
  int64Field 1 m.sectionId ++ stringField 2 m.headline ++ repeatedField 3 Block.encode m.blocks

/-- Reads one field of a `CreateCardRequest`. -/
def step : FieldStep CreateCardRequest := fun m tag w depth bs =>
  match tag with
  | 1 => field "CreateCardRequest" "section_id" (readInt64 w bs) fun v => { m with sectionId := v }
  | 2 => field "CreateCardRequest" "headline" (readString w bs) fun v => { m with headline := v }
  | 3 => field "CreateCardRequest" "blocks" (readNested Block.step default w depth bs) fun v =>
      { m with blocks := m.blocks ++ [v] }
  | _ => skipUnknown m tag w depth bs

instance : WireMessage CreateCardRequest := { encode, step }

end CreateCardRequest

/-- Moves a card to a position of a section. -/
structure MoveCardRequest where
  cardId : Int64 := 0
  sectionId : Int64 := 0
  position : Int32 := 0
  deriving DecidableEq, Repr, Inhabited

namespace MoveCardRequest

/-- The fields of a `MoveCardRequest`, in tag order. -/
def encode (m : MoveCardRequest) : List UInt8 :=
  int64Field 1 m.cardId ++ int64Field 2 m.sectionId ++ int32Field 3 m.position

/-- Reads one field of a `MoveCardRequest`. -/
def step : FieldStep MoveCardRequest := fun m tag w depth bs =>
  match tag with
  | 1 => field "MoveCardRequest" "card_id" (readInt64 w bs) fun v => { m with cardId := v }
  | 2 => field "MoveCardRequest" "section_id" (readInt64 w bs) fun v => { m with sectionId := v }
  | 3 => field "MoveCardRequest" "position" (readInt32 w bs) fun v => { m with position := v }
  | _ => skipUnknown m tag w depth bs

instance : WireMessage MoveCardRequest := { encode, step }

end MoveCardRequest

end StudyPlanner.Proto
