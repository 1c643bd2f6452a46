import ShaderTokens.Category

/-!
# The words of HLSL

The word lists of the shading language.  Most words are literal; a few are patterns such as
`SV_Target[0-7]?`.
-/

namespace ShaderTokens.Words

def scalarTypes : List String :=
  ["bool", "dword", "int", "uint", "half", "float", "double", "min16float", "min10float",
    "min16int", "min12int", "min16uint"]

def expandScalarTypes (scalars : List String) : List String :=
  let sizes := ["1", "2", "3", "4"]
  scalars.flatMap fun scalar =>
    scalar :: sizes.map (scalar ++ ·) ++
      sizes.flatMap fun rows => sizes.map fun columns => scalar ++ rows ++ "x" ++ columns

def objectTypes : List String :=
  ["AppendStructuredBuffer", "BlendState", "Buffer", "ByteAddressBuffer",
    "ConsumeStructuredBuffer", "DepthStencilState", "DepthStencilView", "InputPatch",
    "LineStream", "OutputPatch", "PointStream", "RasterizerState", "RenderTargetView", "RWBuffer",
    "RWByteAddressBuffer", "RWStructuredBuffer", "RWTexture1D", "RWTexture1DArray", "RWTexture2D",
    "RWTexture2DArray", "RWTexture3D", "SamplerComparisonState", "SamplerState",
    "StructuredBuffer", "Texture1D", "Texture1DArray", "Texture2D", "Texture2DArray",
    "Texture2DMS", "Texture2DMSArray", "Texture3D", "TextureCube", "TextureCubeArray",
    "TriangleStream", "cbuffer", "class", "interface", "matrix", "sampler", "sampler1D",
    "sampler2D", "sampler3D", "samplerCUBE", "sampler_state", "string", "struct", "tbuffer",
    "texture", "texture1D", "texture2D", "texture3D", "textureCUBE", "vector", "void"]

def qualifiers : List String :=
  ["centroid", "column_major", "const", "extern", "globallycoherent", "groupshared", "in",
    "inline", "inout", "line", "lineadj", "linear", "nointerpolation", "noperspective", "out",
    "point", "precise", "row_major", "sample", "shared", "snorm", "static", "triangle",
    "triangleadj", "uniform", "unorm", "volatile"]

def statementKeywords : List String :=
  ["asm", "asm_fragment", "break", "case", "compile", "compile_fragment", "continue", "default",
    "discard", "do", "else", "false", "for", "fxgroup", "if", "namespace", "packoffset", "pass",
    "pixelfragment", "register", "return", "stateblock", "stateblock_state", "switch",
    "technique", "technique10", "technique11", "true", "typedef", "vertexfragment", "while"]

/-- Semantics with a meaning fixed by the pipeline. -/
def systemSemantics : List String :=
  ["SV_ClipDistance[0-9]?", "SV_Coverage", "SV_CullDistance[0-9]?", "SV_Depth",
    "SV_DepthGreaterEqual", "SV_DepthLessEqual", "SV_DispatchThreadID", "SV_DomainLocation",
    "SV_GroupID", "SV_GroupIndex", "SV_GroupThreadID", "SV_GSInstanceID", "SV_InnerCoverage",
    "SV_InsideTessFactor", "SV_InstanceID", "SV_IsFrontFace", "SV_OutputControlPointID",
    "SV_Position", "SV_PrimitiveID", "SV_RenderTargetArrayIndex", "SV_SampleIndex",
    "SV_StencilRef", "SV_Target[0-7]?", "SV_TessFactor", "SV_VertexID", "SV_ViewportArrayIndex"]

def legacySemantics : List String :=
  ["BINORMAL[0-9]?", "BLENDINDICES[0-9]?", "BLENDWEIGHT[0-9]?", "COLOR[0-9]?", "DEPTH[0-9]?",
    "FOG", "NORMAL[0-9]?", "POSITION[0-9]?", "POSITIONT", "PSIZE[0-9]?", "TANGENT[0-9]?",
    "TESSFACTOR[0-9]?", "TEXCOORD[0-9]?", "VFACE", "VPOS"]

def reservedKeywords : List String :=
  ["auto", "catch", "char", "const_cast", "delete", "dynamic_cast", "enum", "explicit", "friend",
    "goto", "long", "mutable", "new", "operator", "private", "protected", "public",
    "reinterpret_cast", "short", "signed", "sizeof", "static_cast", "template", "this", "throw",
    "try", "typename", "union", "unsigned", "using", "virtual"]

def intrinsicFunctions : List String :=
  ["abort", "abs", "acos", "all", "AllMemoryBarrier", "AllMemoryBarrierWithGroupSync", "any",
    "asdouble", "asfloat", "asin", "asint", "asuint", "atan", "atan2", "ceil",
    "CheckAccessFullyMapped", "clamp", "clip", "cos", "cosh", "countbits", "cross",
    "D3DCOLORtoUBYTE4", "ddx", "ddx_coarse", "ddx_fine", "ddy", "ddy_coarse", "ddy_fine",
    "degrees", "determinant", "DeviceMemoryBarrier", "DeviceMemoryBarrierWithGroupSync",
    "distance", "dot", "dst", "errorf", "EvaluateAttributeAtCentroid",
    "EvaluateAttributeAtSample", "EvaluateAttributeSnapped", "exp", "exp2", "f16tof32",
    "f32tof16", "faceforward", "firstbithigh", "firstbitlow", "floor", "fma", "fmod", "frac",
    "frexp", "fwidth", "GetRenderTargetSampleCount", "GetRenderTargetSamplePosition",
    "GroupMemoryBarrier", "GroupMemoryBarrierWithGroupSync", "InterlockedAdd", "InterlockedAnd",
    "InterlockedCompareExchange", "InterlockedCompareStore", "InterlockedExchange",
    "InterlockedMax", "InterlockedMin", "InterlockedOr", "InterlockedXor", "isfinite", "isinf",
    "isnan", "ldexp", "length", "lerp", "lit", "log", "log10", "log2", "mad", "max", "min",
    "modf", "msad4", "mul", "noise", "normalize", "pow", "printf", "Process2DQuadTessFactorsAvg",
    "Process2DQuadTessFactorsMax", "Process2DQuadTessFactorsMin", "ProcessIsolineTessFactors",
    "ProcessQuadTessFactorsAvg", "ProcessQuadTessFactorsMax", "ProcessQuadTessFactorsMin",
    "ProcessTriTessFactorsAvg", "ProcessTriTessFactorsMax", "ProcessTriTessFactorsMin", "radians",
    "rcp", "reflect", "refract", "reversebits", "round", "rsqrt", "saturate", "sign", "sin",
    "sincos", "sinh", "smoothstep", "sqrt", "step", "tan", "tanh", "tex1D", "tex1Dbias",
    "tex1Dgrad", "tex1Dlod", "tex1Dproj", "tex2D", "tex2Dbias", "tex2Dgrad", "tex2Dlod",
    "tex2Dproj", "tex3D", "tex3Dbias", "tex3Dgrad", "tex3Dlod", "tex3Dproj", "texCUBE",
    "texCUBEbias", "texCUBEgrad", "texCUBElod", "texCUBEproj", "transpose", "trunc"]

def objectMethods : List String :=
  ["Append", "CalculateLevelOfDetail", "CalculateLevelOfDetailUnclamped", "Consume",
    "DecrementCounter", "Gather", "GatherAlpha", "GatherBlue", "GatherCmp", "GatherCmpAlpha",
    "GatherCmpBlue", "GatherCmpGreen", "GatherCmpRed", "GatherGreen", "GatherRed",
    "GetDimensions", "GetSamplePosition", "IncrementCounter", "Load[234]?", "RestartStrip",
    "Sample", "SampleBias", "SampleCmp", "SampleCmpLevelZero", "SampleGrad", "SampleLevel",
    "Store[234]?"]

def preprocessorDirectives : List String :=
  ["define", "elif", "else", "endif", "error", "if", "ifdef", "ifndef", "include", "line",
    "pragma", "undef"]

def preprocessorBuiltins : List String :=
  ["__COUNTER__", "__DATE__", "__FILE__", "__LINE__", "__TIME__"]

def preprocessorOperators : List String :=
  ["defined"]

end ShaderTokens.Words

namespace ShaderTokens

abbrev WordTable := List (Category × List String)

/-- No deprecated words are known; their categories are listed so that they can be extended. -/
def hlslWords : WordTable :=
  [(.type, Words.expandScalarTypes Words.scalarTypes ++ Words.objectTypes),
    (.qualifier, Words.qualifiers),
    (.keyword, Words.statementKeywords ++ Words.systemSemantics ++ Words.legacySemantics),
    (.reservedKeyword, Words.reservedKeywords),
    (.builtin, Words.intrinsicFunctions ++ Words.objectMethods),
    (.deprecatedQualifier, []),
    (.deprecatedKeyword, []),
    (.deprecatedBuiltin, []),
    (.deprecatedVariable, []),
    (.preprocessorDirective, Words.preprocessorDirectives),
    (.preprocessorBuiltin, Words.preprocessorBuiltins),
    (.preprocessorOperator, Words.preprocessorOperators)]

end ShaderTokens
