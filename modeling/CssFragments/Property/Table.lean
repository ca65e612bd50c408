import CssFragments.Text.Blank

/-! # The known properties

The properties that a declaration may set without being reported, with what is offered and shown
for each of them.

* `Property.table`: the properties, in the order of their names.
* `Property.find?`: the property of a given name, in any case.
* `Property.isUnchecked`: names that are free to choose or belong to a vendor. -/

namespace CssFragments

/-- A property that declarations may set (`PropertyInfo`). -/
structure Property where
  /-- Its name, in lower case. -/
  name : String
  /-- What it does, in one sentence. -/
  description : String
  /-- The words that are offered as its value. -/
  keywords : List String
  /-- Whether a color may be its value. -/
  acceptsColor : Bool
deriving DecidableEq

namespace Property

/-- The line styles of borders and outlines. -/
def borderStyles : List String :=
  ["none", "hidden", "dotted", "dashed", "solid", "double", "groove", "ridge", "inset", "outset"]

/-- The word for a value that the layout chooses. -/
def auto : List String :=
  ["auto"]

/-- Where items stand across the main axis. -/
def alignments : List String :=
  ["normal", "stretch", "center", "flex-start", "flex-end", "start", "end", "baseline"]

/-- How lines or items share the space along an axis. -/
def distributions : List String :=
  ["normal", "center", "flex-start", "flex-end", "start", "end", "space-between", "space-around",
   "space-evenly", "stretch"]

/-- What happens to content that does not fit. -/
def overflows : List String :=
  ["visible", "hidden", "clip", "scroll", "auto"]

/-- The words that every property takes as its value (`global_keywords`). -/
def globalKeywords : List String := ["inherit", "initial", "unset"]

/-- All known properties, in the order of their names. -/
def table : List Property :=
  [⟨"align-content",
    "Aligns a flex container's lines within the flex container when there is extra space in the cross-axis.",
    distributions, false⟩,
   ⟨"align-items",
    "Aligns flex items of the current flex line.",
    alignments, false⟩,
   ⟨"align-self",
    "Allows the default alignment to be overridden for individual flex items.",
    alignments, false⟩,
   ⟨"animation",
    "Shorthand property combines six of the animation properties into a single property.",
    ["none", "infinite", "alternate", "linear", "ease", "ease-in", "ease-out", "ease-in-out"], false⟩,
   ⟨"background",
    "Shorthand property for setting most background properties at the same place in the style sheet.",
    ["none", "no-repeat", "repeat", "center", "fixed", "scroll"], true⟩,
   ⟨"background-color",
    "Sets the background color of an element.",
    ["transparent"], true⟩,
   ⟨"background-image",
    "Sets the background image(s) of an element.",
    ["none"], false⟩,
   ⟨"background-position",
    "Specifies the initial position of the background image(s).",
    ["top", "right", "bottom", "left", "center"], false⟩,
   ⟨"background-repeat",
    "Specifies how background images are tiled after they have been sized and positioned.",
    ["repeat", "repeat-x", "repeat-y", "no-repeat", "space", "round"], false⟩,
   ⟨"background-size",
    "Specifies the size of the background images.",
    ["auto", "cover", "contain"], false⟩,
   ⟨"border",
    "Shorthand property for setting border width, style, and color.",
    borderStyles, true⟩,
   ⟨"border-bottom",
    "Shorthand property for setting border width, style and color.",
    borderStyles, true⟩,
   ⟨"border-color",
    "The color of the border around all four edges of an element.",
    ["transparent"], true⟩,
   ⟨"border-left",
    "Shorthand property for setting border width, style and color.",
    borderStyles, true⟩,
   ⟨"border-radius",
    "Defines the radii of the outer border edge.",
    [], false⟩,
   ⟨"border-right",
    "Shorthand property for setting border width, style and color.",
    borderStyles, true⟩,
   ⟨"border-style",
    "The style of the border around edges of an element.",
    borderStyles, false⟩,
   ⟨"border-top",
    "Shorthand property for setting border width, style and color.",
    borderStyles, true⟩,
   ⟨"border-width",
    "Shorthand that sets the four 'border-*-width' properties.",
    ["thin", "medium", "thick"], false⟩,
   ⟨"bottom",
    "Specifies how far an absolutely positioned box's bottom margin edge is offset above the bottom edge of the box's containing block.",
    auto, false⟩,
   ⟨"box-shadow",
    "Attaches one or more drop-shadows to the box.",
    ["none", "inset"], true⟩,
   ⟨"box-sizing",
    "Specifies the behavior of the 'width' and 'height' properties.",
    ["content-box", "border-box"], false⟩,
   ⟨"color",
    "Sets the color of an element's text.",
    ["currentColor"], true⟩,
   ⟨"column-gap",
    "Sets the gap between columns.",
    ["normal"], false⟩,
   ⟨"content",
    "Determines which page-based occurrence of a given element is applied to a counter or string value.",
    ["none", "normal", "open-quote", "close-quote"], false⟩,
   ⟨"cursor",
    "Allows control over cursor appearance in an element.",
    ["auto", "default", "pointer", "text", "move", "wait", "not-allowed", "grab", "crosshair",
    "help"], false⟩,
   ⟨"display",
    "In combination with 'float' and 'position', determines the type of box or boxes that are generated for an element.",
    ["none", "block", "inline", "inline-block", "flex", "inline-flex", "grid", "inline-grid",
    "contents", "table", "list-item"], false⟩,
   ⟨"fill",
    "Paints the interior of the given graphical element.",
    ["none"], true⟩,
   ⟨"filter",
    "Processes an element's rendering before it is displayed in the document.",
    ["none"], false⟩,
   ⟨"flex",
    "Specifies the components of a flexible length.",
    ["none", "auto"], false⟩,
   ⟨"flex-basis",
    "Sets the flex basis.",
    ["auto", "content"], false⟩,
   ⟨"flex-direction",
    "Specifies how flex items are placed in the flex container.",
    ["row", "row-reverse", "column", "column-reverse"], false⟩,
   ⟨"flex-grow",
    "Sets the flex grow factor.",
    [], false⟩,
   ⟨"flex-shrink",
    "Sets the flex shrink factor.",
    [], false⟩,
   ⟨"flex-wrap",
    "Controls whether the flex container is single-line or multi-line.",
    ["nowrap", "wrap", "wrap-reverse"], false⟩,
   ⟨"float",
    "Specifies how a box should be floated.",
    ["none", "left", "right"], false⟩,
   ⟨"font",
    "Shorthand property for setting font properties.",
    ["caption", "icon", "menu", "small-caption"], false⟩,
   ⟨"font-family",
    "Specifies a prioritized list of font family names or generic family names.",
    ["serif", "sans-serif", "monospace", "cursive", "fantasy", "system-ui"], false⟩,
   ⟨"font-size",
    "Indicates the desired height of glyphs from the font.",
    ["xx-small", "x-small", "small", "medium", "large", "x-large", "xx-large", "smaller", "larger"], false⟩,
   ⟨"font-style",
    "Allows italic or oblique faces to be selected.",
    ["normal", "italic", "oblique"], false⟩,
   ⟨"font-weight",
    "Specifies weight of glyphs in the font, their degree of blackness or stroke thickness.",
    ["normal", "bold", "bolder", "lighter", "100", "200", "300", "400", "500", "600", "700", "800",
    "900"], false⟩,
   ⟨"gap",
    "Shorthand that specifies the gutters between grid rows and columns.",
    ["normal"], false⟩,
   ⟨"grid-area",
    "Determine a grid item's size and location within the grid.",
    auto, false⟩,
   ⟨"grid-template-columns",
    "Specifies the track sizing functions of the grid columns.",
    ["none", "subgrid"], false⟩,
   ⟨"grid-template-rows",
    "Specifies the track sizing functions of the grid rows.",
    ["none", "subgrid"], false⟩,
   ⟨"height",
    "Specifies the height of the content area, padding area or border area of certain boxes.",
    ["auto", "fit-content", "max-content", "min-content"], false⟩,
   ⟨"justify-content",
    "Aligns flex items along the main axis of the current line of the flex container.",
    distributions, false⟩,
   ⟨"left",
    "Specifies how far an absolutely positioned box's left margin edge is offset to the right of the left edge of the box's containing block.",
    auto, false⟩,
   ⟨"letter-spacing",
    "Specifies the minimum, maximum, and optimal spacing between grapheme clusters.",
    ["normal"], false⟩,
   ⟨"line-height",
    "Determines the block-progression dimension of the text content area of an inline box.",
    ["normal"], false⟩,
   ⟨"list-style",
    "Shorthand for setting 'list-style-type', 'list-style-position' and 'list-style-image'.",
    ["none", "disc", "circle", "square", "decimal", "inside", "outside"], false⟩,
   ⟨"margin",
    "Shorthand property to set values for the thickness of the margin area.",
    auto, false⟩,
   ⟨"margin-bottom",
    "Shorthand property to set values for the thickness of the margin area.",
    auto, false⟩,
   ⟨"margin-left",
    "Shorthand property to set values for the thickness of the margin area.",
    auto, false⟩,
   ⟨"margin-right",
    "Shorthand property to set values for the thickness of the margin area.",
    auto, false⟩,
   ⟨"margin-top",
    "Shorthand property to set values for the thickness of the margin area.",
    auto, false⟩,
   ⟨"max-height",
    "Allows authors to constrain content height to a certain range.",
    ["none", "fit-content", "max-content", "min-content"], false⟩,
   ⟨"max-width",
    "Allows authors to constrain content width to a certain range.",
    ["none", "fit-content", "max-content", "min-content"], false⟩,
   ⟨"min-height",
    "Allows authors to constrain content height to a certain range.",
    ["auto", "fit-content", "max-content", "min-content"], false⟩,
   ⟨"min-width",
    "Allows authors to constrain content width to a certain range.",
    ["auto", "fit-content", "max-content", "min-content"], false⟩,
   ⟨"object-fit",
    "Specifies how the contents of a replaced element should be scaled relative to the box established by its used height and width.",
    ["fill", "contain", "cover", "none", "scale-down"], false⟩,
   ⟨"opacity",
    "Opacity of an element's text, where 1 is opaque and 0 is entirely transparent.",
    [], false⟩,
   ⟨"outline",
    "Shorthand property for 'outline-style', 'outline-width', and 'outline-color'.",
    borderStyles, true⟩,
   ⟨"outline-color",
    "The color of the outline.",
    ["invert"], true⟩,
   ⟨"overflow",
    "Shorthand for setting 'overflow-x' and 'overflow-y'.",
    overflows, false⟩,
   ⟨"overflow-x",
    "Specifies the handling of overflow in the horizontal direction.",
    overflows, false⟩,
   ⟨"overflow-y",
    "Specifies the handling of overflow in the vertical direction.",
    overflows, false⟩,
   ⟨"padding",
    "Shorthand property to set values for the thickness of the padding area.",
    [], false⟩,
   ⟨"padding-bottom",
    "Shorthand property to set values for the thickness of the padding area.",
    [], false⟩,
   ⟨"padding-left",
    "Shorthand property to set values for the thickness of the padding area.",
    [], false⟩,
   ⟨"padding-right",
    "Shorthand property to set values for the thickness of the padding area.",
    [], false⟩,
   ⟨"padding-top",
    "Shorthand property to set values for the thickness of the padding area.",
    [], false⟩,
   ⟨"pointer-events",
    "Specifies under what circumstances a given element can be the target element for a pointer event.",
    ["auto", "none", "all", "visible", "painted", "fill", "stroke"], false⟩,
   ⟨"position",
    "The position CSS property sets how an element is positioned in a document.",
    ["static", "relative", "absolute", "fixed", "sticky"], false⟩,
   ⟨"right",
    "Specifies how far an absolutely positioned box's right margin edge is offset to the left of the right edge of the box's containing block.",
    auto, false⟩,
   ⟨"row-gap",
    "Sets the gap between rows.",
    ["normal"], false⟩,
   ⟨"stroke",
    "Paints along the outline of the given graphical element.",
    ["none"], true⟩,
   ⟨"text-align",
    "Describes how inline contents of a block are horizontally aligned if the contents do not completely fill the line box.",
    ["left", "right", "center", "justify", "start", "end"], false⟩,
   ⟨"text-decoration",
    "Decorations applied to font used for an element's text.",
    ["none", "underline", "overline", "line-through"], true⟩,
   ⟨"text-overflow",
    "Text can overflow for example when it is prevented from wrapping.",
    ["clip", "ellipsis"], false⟩,
   ⟨"text-shadow",
    "Enables shadow effects to be applied to the text of the element.",
    ["none"], true⟩,
   ⟨"text-transform",
    "Controls capitalization effects of an element's text.",
    ["none", "capitalize", "uppercase", "lowercase"], false⟩,
   ⟨"top",
    "Specifies how far an absolutely positioned box's top margin edge is offset below the top edge of the box's containing block.",
    auto, false⟩,
   ⟨"transform",
    "A two-dimensional transformation is applied to an element through the 'transform' property.",
    ["none"], false⟩,
   ⟨"transition",
    "Shorthand property combines four of the transition properties into a single property.",
    ["none", "all", "linear", "ease", "ease-in", "ease-out", "ease-in-out"], false⟩,
   ⟨"user-select",
    "Controls the appearance of selection.",
    ["auto", "none", "text", "all", "contain"], false⟩,
   ⟨"vertical-align",
    "Affects the vertical positioning of the inline boxes generated by an inline-level element inside a line box.",
    ["baseline", "sub", "super", "text-top", "text-bottom", "middle", "top", "bottom"], false⟩,
   ⟨"visibility",
    "Specifies whether the boxes generated by an element are rendered.",
    ["visible", "hidden", "collapse"], false⟩,
   ⟨"white-space",
    "Shorthand property for the 'white-space-collapsing' and 'text-wrap' properties.",
    ["normal", "pre", "nowrap", "pre-wrap", "pre-line", "break-spaces"], false⟩,
   ⟨"width",
    "Specifies the width of the content area, padding area or border area of certain boxes.",
    ["auto", "fit-content", "max-content", "min-content"], false⟩,
   ⟨"word-break",
    "Specifies line break opportunities for non-CJK scripts.",
    ["normal", "break-all", "keep-all", "break-word"], false⟩,
   ⟨"z-index",
    "For a positioned box, the 'z-index' property specifies the stack level of the box in the current stacking context.",
    auto, false⟩]

/-- The property of a given name; the case of basic Latin letters does not matter
(`find_property`). -/
def find? (name : Text) : Option Property :=
  let name := String.ofList name.toLower
  table.find? fun p => p.name == name

/-- Names that start with a hyphen, which are free to choose or belong to a vendor
(`is_unchecked_property`). -/
def isUnchecked (name : Text) : Bool := name.head? == some '-'

end Property

end CssFragments
