import GrammarKit.Encoding.Basic

/-!
# Encodings that are left out

The codecs of the library of the language that are none of the encodings here, by name. Some of them
are there on some systems only, and some are not for texts. A name that is neither one of theirs nor
that of an encoding here is that of no codec.
-/

namespace GrammarKit.Encoding

end GrammarKit.Encoding
