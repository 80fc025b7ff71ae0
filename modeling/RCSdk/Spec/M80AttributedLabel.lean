import Mathlib.Algebra.Order.Field.Rat
import Mathlib.Data.Nat.Bitwise
import RCSdk.Lib.Regions
import RCSdk.Spec.GridLayout
import RCSdk.Spec.KPEditUintPopView

/-!
# The attributed label (`M80AttributedLabel.m`)

The label shows a text with links and attachments in it, and finds links in the text by itself: at
once in a short text, and with a block on the main queue in a longer one. All of it happens on the
main thread. Fonts and colours are objects, told apart by identity.

Core Text is left out: a frame is what was laid out, and a touch comes with the indices of the text
that Core Text gives for the lines under it.
-/

namespace RCSdk

open Grids TextEdits Regions

/-! ## Ranges -/

/-- `NSMaxRange`, a sum of two `NSUInteger`s. -/
def NSMaxRange (r : NSRange) : ℕ := (r.location + r.length) % 2 ^ 64

/-- `NSLocationInRange`. -/
def NSLocationInRange (i : ℕ) (r : NSRange) : Bool := r.location ≤ i ∧ i - r.location < r.length

/-- A difference of two `NSUInteger`s. -/
def NSUIntegerSub (a b : ℕ) : ℕ := (a + (2 ^ 64 - b)) % 2 ^ 64

/-- `NSIntersectionRange`. -/
def NSIntersectionRange (r s : NSRange) : NSRange :=
  let last := min (NSMaxRange r) (NSMaxRange s)
  if s.location ≤ r.location ∧ r.location < NSMaxRange s then
    ⟨r.location, NSUIntegerSub last r.location⟩
  else if r.location ≤ s.location ∧ s.location < NSMaxRange r then
    ⟨s.location, NSUIntegerSub last s.location⟩
  else ⟨0, 0⟩

/-- `substringWithRange:`. -/
def substringWithRange (r : NSRange) (text : List unichar) : List unichar :=
  (text.drop r.location).take r.length

/-! ## Attributed strings -/

/-- A `UIColor`, by its identity. -/
abbrev UIColor := ℕ

/-- A `UIFont`, with what Core Text says of it. -/
structure UIFont where
  identity : ℕ
  ascent : ℚ
  descent : ℚ
  lineHeight : ℚ
  deriving DecidableEq, Repr

/-- The attributes of one unit of a text. A run delegate refers to an attachment. -/
structure TextAttributes where
  font : Option UIFont := none
  foregroundColor : Option UIColor := none
  underlineColor : Option UIColor := none
  underlineStyle : Option ℕ := none
  runDelegate : Option ℕ := none
  deriving DecidableEq, Repr

structure AttributedUnit where
  unit : unichar
  attributes : TextAttributes
  deriving DecidableEq, Repr

abbrev NSAttributedString := List AttributedUnit

namespace NSAttributedString

def string (s : NSAttributedString) : List unichar := s.map (·.unit)

/-- Attributes changed over a range. Raises when the range goes beyond the end. -/
def change (f : TextAttributes → TextAttributes) (range : NSRange) (s : NSAttributedString) :
    Option NSAttributedString :=
  if range.Valid s.length then
    some (s.mapIdx fun i u =>
      if NSLocationInRange i range then { u with attributes := f u.attributes } else u)
  else none

/-- `setTextColor:range:`. -/
def setTextColorRange (color : Option UIColor) (range : NSRange) (s : NSAttributedString) :
    Option NSAttributedString :=
  match color with
  | some color => s.change ({ · with foregroundColor := some color }) range
  | none => some s

/-- `setUnderlineStyle:modifier:range:`. -/
def setUnderlineStyle (style modifier : ℕ) (range : NSRange) (s : NSAttributedString) :
    Option NSAttributedString :=
  s.change ({ · with underlineColor := none, underlineStyle := some (style ||| modifier) }) range

/-- `setFont:`, over the whole string. -/
def setFont (font : UIFont) (s : NSAttributedString) : NSAttributedString :=
  s.map fun u => { u with attributes := { u.attributes with font := some font } }

/-- `setTextColor:`, over the whole string. -/
def setTextColor (color : UIColor) (s : NSAttributedString) : NSAttributedString :=
  s.map fun u => { u with attributes := { u.attributes with foregroundColor := some color } }

end NSAttributedString

def kCTUnderlineStyleNone : ℕ := 0

def kCTUnderlineStyleSingle : ℕ := 1

def kCTUnderlinePatternSolid : ℕ := 0

inductive CTLineBreakMode where
  | kCTLineBreakByWordWrapping
  | kCTLineBreakByCharWrapping
  | kCTLineBreakByClipping
  | kCTLineBreakByTruncatingHead
  | kCTLineBreakByTruncatingTail
  | kCTLineBreakByTruncatingMiddle
  deriving DecidableEq, Repr

inductive CTTextAlignment where
  | kCTTextAlignmentLeft
  | kCTTextAlignmentRight
  | kCTTextAlignmentCenter
  | kCTTextAlignmentJustified
  | kCTTextAlignmentNatural
  deriving DecidableEq, Repr

/-- The settings of a paragraph. -/
structure CTParagraphStyle where
  alignment : CTTextAlignment
  lineBreakMode : CTLineBreakMode
  maximumLineSpacing : ℚ
  minimumLineSpacing : ℚ
  paragraphSpacing : ℚ
  minimumLineHeight : ℚ
  deriving DecidableEq, Repr

/-! ## Attachments (`M80AttributedLabelAttachment.m`) -/

inductive M80ImageAlignment where
  | M80ImageAlignmentTop
  | M80ImageAlignmentCenter
  | M80ImageAlignmentBottom
  deriving DecidableEq, Repr

structure UIEdgeInsets where
  top : ℚ
  left : ℚ
  bottom : ℚ
  right : ℚ
  deriving DecidableEq, Repr

/-- What is attached, with its size. -/
inductive AttachmentContent where
  | image (size : CGSize)
  | view (size : CGSize)
  | unsupported
  deriving DecidableEq, Repr

structure M80AttributedLabelAttachment where
  identity : ℕ
  content : AttachmentContent
  margin : UIEdgeInsets
  alignment : M80ImageAlignment
  maxSize : CGSize
  fontAscent : ℚ
  fontDescent : ℚ
  deriving DecidableEq, Repr

namespace M80AttributedLabelAttachment

variable (a : M80AttributedLabelAttachment)

def attachmentSize : CGSize :=
  match a.content with
  | .image size => size
  | .view size => size
  | .unsupported => ⟨0, 0⟩

/-- `calculateContentSize`. -/
def calculateContentSize : CGSize :=
  let width := a.attachmentSize.width
  let height := a.attachmentSize.height
  let newWidth := a.maxSize.width
  let newHeight := a.maxSize.height
  if width ≤ newWidth ∧ height ≤ newHeight then a.attachmentSize
  else if width / height > newWidth / newHeight then ⟨newWidth, newWidth * height / width⟩
  else ⟨newHeight * width / height, newHeight⟩

/-- The size of the content that `boxSize` begins with. -/
def contentSize : CGSize :=
  let contentSize := a.attachmentSize
  if a.maxSize.width > 0 ∧ a.maxSize.height > 0 ∧
      contentSize.width > 0 ∧ contentSize.height > 0 then a.calculateContentSize
  else contentSize

def boxSize : CGSize :=
  ⟨a.contentSize.width + a.margin.left + a.margin.right,
    a.contentSize.height + a.margin.top + a.margin.bottom⟩

def baseLine : ℚ := (a.fontAscent + a.fontDescent) / 2 - a.fontDescent

def ascentCallback : ℚ :=
  match a.alignment with
  | .M80ImageAlignmentTop => a.fontAscent
  | .M80ImageAlignmentCenter => a.boxSize.height / 2 + a.baseLine
  | .M80ImageAlignmentBottom => a.boxSize.height - a.fontDescent

def descentCallback : ℚ :=
  match a.alignment with
  | .M80ImageAlignmentTop => a.boxSize.height - a.fontAscent
  | .M80ImageAlignmentCenter => a.boxSize.height / 2 - a.baseLine
  | .M80ImageAlignmentBottom => a.fontDescent

end M80AttributedLabelAttachment

/-! ## Links (`M80AttributedLabelURL.m`) -/

/-- The data of a link. -/
inductive LinkData where
  | string (s : List unichar)
  | object (identity : ℕ)
  deriving DecidableEq, Repr

structure M80AttributedLabelURL where
  linkData : Option LinkData
  range : NSRange
  color : Option UIColor
  deriving DecidableEq, Repr

/-- What finds links: the block of the program, if it set one, and the matches of `urlExpression`
in a text. -/
structure LinkDetection where
  customDetectBlock : Option (List unichar → List M80AttributedLabelURL)
  enumerateMatches : List unichar → List NSRange

/-- `detectLinks:`. -/
def LinkDetection.detectLinks (d : LinkDetection) (plainText : List unichar) :
    List M80AttributedLabelURL :=
  match d.customDetectBlock with
  | some customDetectBlock => customDetectBlock plainText
  | none =>
    if plainText.length ≠ 0 then
      (d.enumerateMatches plainText).map fun range =>
        ⟨some (.string (substringWithRange range plainText)), range, none⟩
    else []

/-! ## The label -/

/-- What was laid out, and for which bounds. -/
structure CTFrame where
  string : NSAttributedString
  paragraphStyle : CTParagraphStyle
  bounds : Rect ℚ
  deriving DecidableEq

/-- The properties of a label whose setters do nothing else. -/
structure M80LabelStyle where
  underLineForLink : Bool := true
  numberOfLines : ℤ := 0
  textAlignment : CTTextAlignment := .kCTTextAlignmentLeft
  lineBreakMode : CTLineBreakMode := .kCTLineBreakByWordWrapping
  lineSpacing : ℚ := 0
  paragraphSpacing : ℚ := 0
  deriving DecidableEq, Repr

structure M80AttributedLabel where
  attributedString : NSAttributedString
  _attachments : List M80AttributedLabelAttachment
  _linkLocations : List M80AttributedLabelURL
  _textFrame : Option CTFrame
  _fontAscent : ℚ
  _fontDescent : ℚ
  touchedLink : Option M80AttributedLabelURL
  linkDetected : Bool
  ignoreRedraw : Bool
  font : UIFont
  textColor : UIColor
  highlightColor : UIColor
  linkColor : Option UIColor
  autoDetectLinks : Bool
  style : M80LabelStyle
  bounds : Rect ℚ
  /-- What `setNeedsDisplay` asks for. -/
  needsDisplay : Bool
  /-- How many attachments were made. -/
  made : ℕ

namespace M80AttributedLabel

def M80MinAsyncDetectLinkLength : ℕ := 50

def kMinHttpLinkLength : ℕ := 5

def blackColor : UIColor := 0

def blueColor : UIColor := 1

def defaultHighlightColor : UIColor := 2

/-- `commonInit`, with the system font of size 15. A view that was not shown yet is drawn. -/
def commonInit (systemFont : UIFont) (bounds : Rect ℚ) : M80AttributedLabel where
  attributedString := []
  _attachments := []
  _linkLocations := []
  _textFrame := none
  _fontAscent := systemFont.ascent
  _fontDescent := systemFont.descent
  touchedLink := none
  linkDetected := false
  ignoreRedraw := false
  font := systemFont
  textColor := blackColor
  highlightColor := defaultHighlightColor
  linkColor := some blueColor
  autoDetectLinks := true
  style := {}
  bounds
  needsDisplay := true
  made := 0

variable (label : M80AttributedLabel)

/-- The text the label shows. -/
def text : List unichar := label.attributedString.string

def setNeedsDisplay : M80AttributedLabel := { label with needsDisplay := true }

def resetTextFrame : M80AttributedLabel :=
  { label with
    _textFrame := none
    needsDisplay := label.needsDisplay || !label.ignoreRedraw }

def cleanAll : M80AttributedLabel :=
  { label with
    ignoreRedraw := false
    linkDetected := false
    _attachments := []
    _linkLocations := []
    touchedLink := none }.resetTextFrame

/-- `resetFont`. -/
def resetFont : M80AttributedLabel :=
  { label with _fontAscent := label.font.ascent, _fontDescent := label.font.descent }

/-- `setFont:`. -/
def setFont (font : Option UIFont) : M80AttributedLabel :=
  match font with
  | none => label
  | some font =>
    if label.font ≠ font then
      let label : M80AttributedLabel := { label with
        font
        attributedString := label.attributedString.setFont font }
      let label := label.resetFont
      let _attachments := label._attachments.map fun a =>
        { a with fontAscent := label._fontAscent, fontDescent := label._fontDescent }
      { label with _attachments }.resetTextFrame
    else label

/-- `setTextColor:`. -/
def setTextColor (textColor : Option UIColor) : M80AttributedLabel :=
  match textColor with
  | none => label
  | some textColor =>
    if label.textColor ≠ textColor then
      { label with
        textColor
        attributedString := label.attributedString.setTextColor textColor }.resetTextFrame
    else label

/-- `setHighlightColor:`. -/
def setHighlightColor (highlightColor : Option UIColor) : M80AttributedLabel :=
  match highlightColor with
  | none => label
  | some highlightColor =>
    if label.highlightColor ≠ highlightColor then
      { label with highlightColor }.resetTextFrame
    else label

/-- `setLinkColor:`. -/
def setLinkColor (linkColor : Option UIColor) : M80AttributedLabel :=
  if label.linkColor ≠ linkColor then { label with linkColor }.resetTextFrame else label

/-- `setFrame:` and `setBounds:`, with the bounds they leave. -/
def setBounds (bounds : Rect ℚ) : M80AttributedLabel :=
  if bounds ≠ label.bounds then { label with bounds }.resetTextFrame else label

/-- `attributedString:`. -/
def attributed (text : List unichar) : NSAttributedString :=
  text.map fun unit =>
    ⟨unit, { font := some label.font, foregroundColor := some label.textColor }⟩

/-! ### Text -/

/-- `setAttributedText:`. -/
def setAttributedText (attributedText : NSAttributedString) : M80AttributedLabel :=
  { label with attributedString := attributedText }.cleanAll

/-- `setText:`. -/
def setText (text : List unichar) : M80AttributedLabel :=
  label.setAttributedText (label.attributed text)

/-- `appendAttributedText:`. -/
def appendAttributedText (attributedText : NSAttributedString) : M80AttributedLabel :=
  { label with attributedString := label.attributedString ++ attributedText }.resetTextFrame

/-- `appendText:`. -/
def appendText (text : List unichar) : M80AttributedLabel :=
  label.appendAttributedText (label.attributed text)

def objectReplacementChar : unichar := 0xFFFC

/-- `appendAttachment:`. -/
def appendAttachment (attachment : M80AttributedLabelAttachment) : M80AttributedLabel :=
  let attachment := { attachment with
    fontAscent := label._fontAscent, fontDescent := label._fontDescent }
  { label with _attachments := label._attachments ++ [attachment] }.appendAttributedText
    [⟨objectReplacementChar, { runDelegate := some attachment.identity }⟩]

/-- `attachmentWith:margin:alignment:maxSize:` and `appendAttachment:`, with a new object. -/
def appendContent (content : AttachmentContent) (margin : UIEdgeInsets)
    (alignment : M80ImageAlignment) (maxSize : CGSize) : M80AttributedLabel :=
  { label with made := label.made + 1 }.appendAttachment
    ⟨label.made, content, margin, alignment, maxSize, 0, 0⟩

/-- `appendImage:maxSize:margin:alignment:`. -/
def appendImage (image maxSize : CGSize) (margin : UIEdgeInsets)
    (alignment : M80ImageAlignment) : M80AttributedLabel :=
  label.appendContent (.image image) margin alignment maxSize

/-- `appendView:margin:alignment:`. -/
def appendView (view : CGSize) (margin : UIEdgeInsets) (alignment : M80ImageAlignment) :
    M80AttributedLabel :=
  label.appendContent (.view view) margin alignment ⟨0, 0⟩

/-! ### Links -/

/-- `addCustomLink:forRange:linkColor:`. -/
def addCustomLinkColor (linkData : Option LinkData) (range : NSRange) (color : Option UIColor) :
    M80AttributedLabel :=
  let url : M80AttributedLabelURL := ⟨linkData, range, color⟩
  { label with _linkLocations := label._linkLocations ++ [url] }.resetTextFrame

/-- `addCustomLink:forRange:`. -/
def addCustomLink (linkData : Option LinkData) (range : NSRange) : M80AttributedLabel :=
  label.addCustomLinkColor linkData range label.linkColor

/-- Two links that have units of the text in common. -/
def intersect (link url : M80AttributedLabelURL) : Bool :=
  (NSIntersectionRange link.range url.range).length ≠ 0

/-- `addAutoDetectedLink:`. -/
def addAutoDetectedLink (link : M80AttributedLabelURL) : M80AttributedLabel :=
  if label._linkLocations.any (intersect link) then label
  else label.addCustomLink link.linkData link.range

/-- The block of `computeLink:sync:`. -/
def linkBlock (links : List M80AttributedLabelURL) : M80AttributedLabel :=
  let label := { label with linkDetected := true }
  if links.length ≠ 0 then
    (links.foldl addAutoDetectedLink label).resetTextFrame
  else label

/-- `linkAtIndex:`. -/
def linkAtIndex (index : ℕ) : Option M80AttributedLabelURL :=
  label._linkLocations.find? fun url => NSLocationInRange index url.range

/-- `urlForPoint:`, with the indices for the lines under the point. -/
def urlForPoint (indices : List ℕ) : Option M80AttributedLabelURL :=
  if label._textFrame.isNone then none else indices.findSome? label.linkAtIndex

/-- `linkDataForPoint:`. -/
def linkDataForPoint (indices : List ℕ) : Option LinkData :=
  (label.urlForPoint indices).bind (·.linkData)

/-! ### Drawing -/

/-- The paragraph style of `attributedStringForDraw`. -/
def paragraphStyle : CTParagraphStyle where
  alignment := label.style.textAlignment
  lineBreakMode :=
    if label.style.lineBreakMode = .kCTLineBreakByTruncatingTail then
      if label.style.numberOfLines = 1 then .kCTLineBreakByCharWrapping
      else .kCTLineBreakByWordWrapping
    else label.style.lineBreakMode
  maximumLineSpacing := label.style.lineSpacing
  minimumLineSpacing := label.style.lineSpacing
  paragraphSpacing := label.style.paragraphSpacing
  minimumLineHeight := label.font.lineHeight

/-- One link of `attributedStringForDraw`. -/
def drawLink (drawString : NSAttributedString) (url : M80AttributedLabelURL) :
    Option NSAttributedString :=
  if NSMaxRange url.range > label.attributedString.length then some drawString
  else do
    let drawLinkColor := url.color <|> label.linkColor
    let drawString ← drawString.setTextColorRange drawLinkColor url.range
    drawString.setUnderlineStyle
      (if label.style.underLineForLink then kCTUnderlineStyleSingle else kCTUnderlineStyleNone)
      kCTUnderlinePatternSolid url.range

/-- `attributedStringForDraw`: the string, apart from its paragraph style. -/
def attributedStringForDraw : Option NSAttributedString :=
  label._linkLocations.foldlM label.drawLink label.attributedString

/-- `prepareTextFrame:rect:`. -/
def prepareTextFrame (drawString : NSAttributedString) : M80AttributedLabel :=
  if label._textFrame.isNone then
    { label with _textFrame := some ⟨drawString, label.paragraphStyle, label.bounds⟩ }
  else label

end M80AttributedLabel

/-- What a label shows: its frame, the range in the colour of a touched link, and what cuts the
lines. -/
structure M80Shown where
  frame : CTFrame
  highlight : Option (UIColor × NSRange)
  numberOfLines : ℤ
  lineBreakMode : CTLineBreakMode
  deriving DecidableEq

namespace M80AttributedLabel

/-- What `drawHighlightWithRect:` and `drawText:rect:context:` draw of a frame. -/
def draw (label : M80AttributedLabel) (frame : CTFrame) : M80Shown where
  frame
  highlight := label.touchedLink.map fun link => (label.highlightColor, link.range)
  numberOfLines := label.style.numberOfLines
  lineBreakMode := label.style.lineBreakMode

end M80AttributedLabel

/-- A label, the blocks it has on the main queue, each with the text it was made for, what is on the
screen, and the links that were clicked. -/
structure M80Screen where
  label : M80AttributedLabel
  mainQueue : List (List unichar × List M80AttributedLabelURL)
  shown : Option M80Shown
  clicked : List LinkData

/-- What happens to a label. -/
inductive M80Event where
  | setText (text : List unichar)
  | setAttributedText (attributedText : NSAttributedString)
  | appendText (text : List unichar)
  | appendAttributedText (attributedText : NSAttributedString)
  | appendImage (image maxSize : CGSize) (margin : UIEdgeInsets) (alignment : M80ImageAlignment)
  | appendView (view : CGSize) (margin : UIEdgeInsets) (alignment : M80ImageAlignment)
  | addCustomLink (linkData : Option LinkData) (range : NSRange)
  | addCustomLinkColor (linkData : Option LinkData) (range : NSRange) (color : Option UIColor)
  | setFont (font : Option UIFont)
  | setTextColor (textColor : Option UIColor)
  | setHighlightColor (highlightColor : Option UIColor)
  | setLinkColor (linkColor : Option UIColor)
  | setBounds (bounds : Rect ℚ)
  | setAutoDetectLinks (autoDetectLinks : Bool)
  | setStyle (style : M80LabelStyle)
  | setNeedsDisplay
  | sizeThatFits
  | drawRect
  | mainQueue
  | touchesBegan (indices : List ℕ)
  | touchesMoved (indices : List ℕ)
  | touchesCancelled
  | touchesEnded (indices : List ℕ)

namespace M80Screen

variable (d : LinkDetection) (s : M80Screen)

def init (systemFont : UIFont) (bounds : Rect ℚ) : M80Screen :=
  ⟨.commonInit systemFont bounds, [], none, []⟩

/-- `computeLink:sync:`. -/
def computeLink (text : List unichar) (sync : Bool) : M80Screen :=
  if sync then
    let label := { s.label with ignoreRedraw := true }.linkBlock (d.detectLinks text)
    { s with label := { label with ignoreRedraw := false } }
  else { s with mainQueue := s.mainQueue ++ [(text, d.detectLinks text)] }

/-- `recomputeLinksIfNeeded`. -/
def recomputeLinksIfNeeded : M80Screen :=
  if !s.label.autoDetectLinks || s.label.linkDetected then s
  else if s.label.text.length ≤ M80AttributedLabel.kMinHttpLinkLength then s
  else s.computeLink d s.label.text
    (s.label.text.length ≤ M80AttributedLabel.M80MinAsyncDetectLinkLength)

/-- `drawRect:`, as the system calls it. -/
def drawRect : Option M80Screen := do
  let s := { s with label := { s.label with needsDisplay := false } }.recomputeLinksIfNeeded d
  let drawString ← s.label.attributedStringForDraw
  let label := s.label.prepareTextFrame drawString
  some { s with label, shown := label._textFrame.map label.draw }

/-- The next block of the main queue. -/
def runMainQueue : M80Screen :=
  match s.mainQueue with
  | [] => s
  | (text, links) :: mainQueue =>
    { s with
      mainQueue
      label := if s.label.text = text then s.label.linkBlock links else s.label }

/-- `touchesBegan:withEvent:`. -/
def touchesBegan (indices : List ℕ) : M80Screen :=
  let touchedLink := s.label.touchedLink <|> s.label.urlForPoint indices
  let label := { s.label with touchedLink }
  { s with label := if touchedLink.isSome then label.setNeedsDisplay else label }

/-- `touchesMoved:withEvent:`. -/
def touchesMoved (indices : List ℕ) : M80Screen :=
  let touchedLink := s.label.urlForPoint indices
  if s.label.touchedLink ≠ touchedLink then
    { s with label := { s.label with touchedLink }.setNeedsDisplay }
  else s

/-- `touchesCancelled:withEvent:`. -/
def touchesCancelled : M80Screen :=
  if s.label.touchedLink.isSome then
    { s with label := { s.label with touchedLink := none }.setNeedsDisplay }
  else s

/-- `onLabelClick:`, which hands the data of the link to the delegate. -/
def onLabelClick (indices : List ℕ) : M80Screen :=
  { s with clicked := s.clicked ++ (s.label.linkDataForPoint indices).toList }

/-- `touchesEnded:withEvent:`. -/
def touchesEnded (indices : List ℕ) : M80Screen := (s.onLabelClick indices).touchesCancelled

def step (s : M80Screen) : M80Event → Option M80Screen
  | .setText text => some { s with label := s.label.setText text }
  | .setAttributedText attributedText =>
    some { s with label := s.label.setAttributedText attributedText }
  | .appendText text => some { s with label := s.label.appendText text }
  | .appendAttributedText attributedText =>
    some { s with label := s.label.appendAttributedText attributedText }
  | .appendImage image maxSize margin alignment =>
    some { s with label := s.label.appendImage image maxSize margin alignment }
  | .appendView view margin alignment =>
    some { s with label := s.label.appendView view margin alignment }
  | .addCustomLink linkData range =>
    some { s with label := s.label.addCustomLink linkData range }
  | .addCustomLinkColor linkData range color =>
    some { s with label := s.label.addCustomLinkColor linkData range color }
  | .setFont font => some { s with label := s.label.setFont font }
  | .setTextColor textColor => some { s with label := s.label.setTextColor textColor }
  | .setHighlightColor highlightColor =>
    some { s with label := s.label.setHighlightColor highlightColor }
  | .setLinkColor linkColor => some { s with label := s.label.setLinkColor linkColor }
  | .setBounds bounds => some { s with label := s.label.setBounds bounds }
  | .setAutoDetectLinks autoDetectLinks => some { s with label := { s.label with autoDetectLinks } }
  | .setStyle style => some { s with label := { s.label with style } }
  | .setNeedsDisplay => some { s with label := s.label.setNeedsDisplay }
  | .sizeThatFits => s.label.attributedStringForDraw.map fun _ => s
  | .drawRect => s.drawRect d
  | .mainQueue => some s.runMainQueue
  | .touchesBegan indices => some (s.touchesBegan indices)
  | .touchesMoved indices => some (s.touchesMoved indices)
  | .touchesCancelled => some s.touchesCancelled
  | .touchesEnded indices => some (s.touchesEnded indices)

end M80Screen

end RCSdk
