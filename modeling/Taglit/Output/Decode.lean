import Taglit.Json.Decoder
import Taglit.Output.Options

/-!
# Output options from JSON

The options are a record whose templates are given by the texts of their patterns.
-/

namespace Taglit.Output

open Taglit.Json (Decoder)

/-- A template, given by the text of its pattern. -/
def Template.decoder : Decoder Template :=
  Decoder.text.map Template.ofSource

/-- The fields of the options, in their order. -/
def Options.fields : List (Decoder.Field Options) :=
  [.of "if" Template.decoder fun t o => { o with branch := t },
   .of "else" Decoder.text fun s o => { o with otherwise := s },
   .of "events" Template.decoder fun t o => { o with events := t },
   .of "properties" Template.decoder fun t o => { o with properties := t },
   .of "functions" Template.decoder fun t o => { o with functions := t },
   .of "modules" Template.decoder fun t o => { o with modules := t },
   .of "mixins" Template.decoder fun t o => { o with mixins := t },
   .of "bindings" Template.decoder fun t o => { o with bindings := t },
   .of "each" Template.decoder fun t o => { o with each := t },
   .of "wrapEvents" Decoder.flag fun b o => { o with wrapEvents := b },
   .of "escapeAttributes" Decoder.flag fun b o => { o with escapeAttributes := b }]

/-- Options; what is not given keeps its default. -/
def Options.decoder : Decoder Options :=
  .record "OutputOptions" Options.fields {}

end Taglit.Output
