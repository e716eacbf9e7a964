import Renderflow.Graph.Basic

/-!
# Flux templates

The layouts of the graphs that Flux jobs start from. Their nodes and inputs stand in key order.
-/

namespace Renderflow.Template.Flux

/-- Text to image. -/
def txt2img : Layout :=
  [ ("1", .of "UnetLoaderGGUF" "Unet Loader (GGUF)"
      [("unet_name", .str "flux1-dev-Q8_0.gguf")]),
    ("10", .of "Power Lora Loader (rgthree)" "Power Lora Loader (rgthree)"
      [("PowerLoraLoaderHeaderWidget", .object [("type", .str "PowerLoraLoaderHeaderWidget")]),
       ("clip", .link ⟨"2", 0⟩),
       ("lora_1", .object [("lora", .str "None"), ("on", .bool false), ("strength", .int 0)]),
       ("lora_2", .object [("lora", .str "None"), ("on", .bool false), ("strength", .int 0)]),
       ("lora_3", .object [("lora", .str "None"), ("on", .bool false), ("strength", .int 0)]),
       ("lora_4", .object [("lora", .str "None"), ("on", .bool false), ("strength", .int 0)]),
       ("lora_5", .object [("lora", .str "None"), ("on", .bool false), ("strength", .int 0)]),
       ("model", .link ⟨"1", 0⟩),
       ("➕ Add Lora", .str "")]),
    ("2", .of "DualCLIPLoader" "DualCLIPLoader"
      [("clip_name1", .str "t5xxl_fp16.safetensors"),
       ("clip_name2", .str "Long-ViT-L-14-GmP-SAE-full-model.safetensors"),
       ("type", .str "flux")]),
    ("3", .of "VAELoader" "Load VAE"
      [("vae_name", .str "ae.safetensors")]),
    ("4", .of "CLIPTextEncode" "CLIP Text Encode (Prompt)"
      [("clip", .link ⟨"10", 1⟩),
       ("text", .str "PROMPT HERE")]),
    ("5", .of "FluxGuidance" "FluxGuidance"
      [("conditioning", .link ⟨"4", 0⟩),
       ("guidance", .float 3.5)]),
    ("6", .of "VAEDecode" "VAE Decode"
      [("samples", .link ⟨"8", 0⟩),
       ("vae", .link ⟨"3", 0⟩)]),
    ("7", .of "SaveImage" "Save Image"
      [("filename_prefix", .str "fluxbot/GEN"),
       ("images", .link ⟨"6", 0⟩)]),
    ("8", .of "KSampler" "KSampler"
      [("cfg", .int 1),
       ("denoise", .int 1),
       ("latent_image", .link ⟨"99", 0⟩),
       ("model", .link ⟨"10", 0⟩),
       ("negative", .link ⟨"5", 0⟩),
       ("positive", .link ⟨"5", 0⟩),
       ("sampler_name", .str "euler"),
       ("scheduler", .str "sgm_uniform"),
       ("seed", .int 862810278327975),
       ("steps", .int 32)]),
    ("9", .of "PreviewImage" "Flux Preview"
      [("images", .link ⟨"6", 0⟩)]),
    ("99", .of "BobsLatentNodeAdvanced" "Bobs Latent Optimizer (Advanced)"
      [("aspect_ratio", .str "1:1"),
       ("batch_size", .int 1),
       ("model_type", .str "FLUX"),
       ("mp_size_float", .str "1"),
       ("upscale_by", .int 1)]) ]

/-- Image to image. -/
def img2img : Layout :=
  [ ("1", .of "UnetLoaderGGUF" "Unet Loader (GGUF)"
      [("unet_name", .str "flux1-dev-Q8_0.gguf")]),
    ("14", .of "VAEEncode" "VAE Encode"
      [("pixels", .link ⟨"16", 0⟩),
       ("vae", .link ⟨"3", 0⟩)]),
    ("15", .of "LoadImageFromUrlOrPath" "LoadImageFromUrlOrPath"
      [("url_or_path", .str "")]),
    ("16", .of "TenosResizeToTargetPixels" "Image Resize to 1M Pixels"
      [("image", .link ⟨"15", 0⟩),
       ("interpolation", .str "bicubic")]),
    ("17", .of "Power Lora Loader (rgthree)" "Power Lora Loader (rgthree)"
      [("PowerLoraLoaderHeaderWidget", .object [("type", .str "PowerLoraLoaderHeaderWidget")]),
       ("clip", .link ⟨"2", 0⟩),
       ("lora_1", .object [("lora", .str "None"), ("on", .bool false), ("strength", .int 0)]),
       ("lora_2", .object [("lora", .str "None"), ("on", .bool false), ("strength", .int 0)]),
       ("lora_3", .object [("lora", .str "None"), ("on", .bool false), ("strength", .int 0)]),
       ("lora_4", .object [("lora", .str "None"), ("on", .bool false), ("strength", .int 0)]),
       ("lora_5", .object [("lora", .str "None"), ("on", .bool false), ("strength", .int 0)]),
       ("model", .link ⟨"1", 0⟩),
       ("➕ Add Lora", .str "")]),
    ("2", .of "DualCLIPLoader" "DualCLIPLoader"
      [("clip_name1", .str "t5xxl_fp16.safetensors"),
       ("clip_name2", .str "Long-ViT-L-14-GmP-SAE-full-model.safetensors"),
       ("type", .str "flux")]),
    ("3", .of "VAELoader" "Load VAE"
      [("vae_name", .str "ae.safetensors")]),
    ("4", .of "CLIPTextEncode" "CLIP Text Encode (Prompt)"
      [("clip", .link ⟨"17", 1⟩),
       ("text", .str "PROMPT HERE")]),
    ("5", .of "FluxGuidance" "FluxGuidance"
      [("conditioning", .link ⟨"4", 0⟩),
       ("guidance", .float 3.5)]),
    ("6", .of "VAEDecode" "VAE Decode"
      [("samples", .link ⟨"8", 0⟩),
       ("vae", .link ⟨"3", 0⟩)]),
    ("7", .of "SaveImage" "Save Image"
      [("filename_prefix", .str "fluxbot/GEN"),
       ("images", .link ⟨"6", 0⟩)]),
    ("8", .of "KSampler" "KSampler"
      [("cfg", .int 1),
       ("denoise", .float 0.75),
       ("latent_image", .link ⟨"14", 0⟩),
       ("model", .link ⟨"17", 0⟩),
       ("negative", .link ⟨"5", 0⟩),
       ("positive", .link ⟨"5", 0⟩),
       ("sampler_name", .str "euler"),
       ("scheduler", .str "sgm_uniform"),
       ("seed", .int 321292115380751),
       ("steps", .int 32)]),
    ("9", .of "PreviewImage" "Flux Img2Img Preview"
      [("images", .link ⟨"6", 0⟩)]) ]

/-- A weak variation of an image. -/
def weakVariation : Layout :=
  [ ("1", .of "UnetLoaderGGUF" "Unet Loader (GGUF)"
      [("unet_name", .str "flux1-dev-Q8_0.gguf")]),
    ("11", .of "VAEDecode" "VAE Decode"
      [("samples", .link ⟨"7", 0⟩),
       ("vae", .link ⟨"3", 0⟩)]),
    ("2", .of "DualCLIPLoader" "DualCLIPLoader"
      [("clip_name1", .str "t5xxl_fp16.safetensors"),
       ("clip_name2", .str "Long-ViT-L-14-GmP-SAE-full-model.safetensors"),
       ("type", .str "flux")]),
    ("22", .of "VAEEncode" "VAE Encode"
      [("pixels", .link ⟨"36", 0⟩),
       ("vae", .link ⟨"3", 0⟩)]),
    ("3", .of "VAELoader" "Load VAE"
      [("vae_name", .str "ae.safetensors")]),
    ("33", .of "LoadImageFromUrlOrPath" "LoadImageFromUrlOrPath"
      [("url_or_path", .str "")]),
    ("34", .of "SaveImage" "Save Image"
      [("filename_prefix", .str "fluxbot/VARIATIONS"),
       ("images", .link ⟨"11", 0⟩)]),
    ("35", .of "Power Lora Loader (rgthree)" "Power Lora Loader (rgthree)"
      [("PowerLoraLoaderHeaderWidget", .object [("type", .str "PowerLoraLoaderHeaderWidget")]),
       ("clip", .link ⟨"2", 0⟩),
       ("lora_1", .object [("lora", .str "None"), ("on", .bool false), ("strength", .int 0)]),
       ("lora_2", .object [("lora", .str "None"), ("on", .bool false), ("strength", .int 0)]),
       ("lora_3", .object [("lora", .str "None"), ("on", .bool false), ("strength", .int 0)]),
       ("lora_4", .object [("lora", .str "None"), ("on", .bool false), ("strength", .int 0)]),
       ("lora_5", .object [("lora", .str "None"), ("on", .bool false), ("strength", .int 0)]),
       ("model", .link ⟨"1", 0⟩),
       ("➕ Add Lora", .str "")]),
    ("36", .of "TenosResizeToTargetPixels" "Tenos Resize to ~1M Pixels"
      [("image", .link ⟨"33", 0⟩),
       ("interpolation", .str "bicubic")]),
    ("5", .of "FluxGuidance" "FluxGuidance"
      [("conditioning", .link ⟨"8", 0⟩),
       ("guidance", .float 3.5)]),
    ("7", .of "KSampler" "KSampler"
      [("cfg", .int 1),
       ("denoise", .float 0.4),
       ("latent_image", .link ⟨"22", 0⟩),
       ("model", .link ⟨"35", 0⟩),
       ("negative", .link ⟨"5", 0⟩),
       ("positive", .link ⟨"5", 0⟩),
       ("sampler_name", .str "euler"),
       ("scheduler", .str "sgm_uniform"),
       ("seed", .int 775752669305671),
       ("steps", .int 32)]),
    ("8", .of "CLIPTextEncode" "CLIP Text Encode (Prompt)"
      [("clip", .link ⟨"35", 1⟩),
       ("text", .str " ")]) ]

/-- A strong variation of an image. -/
def strongVariation : Layout :=
  [ ("1", .of "UnetLoaderGGUF" "Unet Loader (GGUF)"
      [("unet_name", .str "flux1-dev-Q8_0.gguf")]),
    ("11", .of "VAEDecode" "VAE Decode"
      [("samples", .link ⟨"7", 0⟩),
       ("vae", .link ⟨"3", 0⟩)]),
    ("2", .of "DualCLIPLoader" "DualCLIPLoader"
      [("clip_name1", .str "t5xxl_fp16.safetensors"),
       ("clip_name2", .str "Long-ViT-L-14-GmP-SAE-full-model.safetensors"),
       ("type", .str "flux")]),
    ("22", .of "VAEEncode" "VAE Encode"
      [("pixels", .link ⟨"36", 0⟩),
       ("vae", .link ⟨"3", 0⟩)]),
    ("3", .of "VAELoader" "Load VAE"
      [("vae_name", .str "ae.safetensors")]),
    ("33", .of "LoadImageFromUrlOrPath" "LoadImageFromUrlOrPath"
      [("url_or_path", .str "")]),
    ("34", .of "SaveImage" "Save Image"
      [("filename_prefix", .str "fluxbot/VARIATIONS"),
       ("images", .link ⟨"11", 0⟩)]),
    ("35", .of "Power Lora Loader (rgthree)" "Power Lora Loader (rgthree)"
      [("PowerLoraLoaderHeaderWidget", .object [("type", .str "PowerLoraLoaderHeaderWidget")]),
       ("clip", .link ⟨"2", 0⟩),
       ("lora_1", .object [("lora", .str "None"), ("on", .bool false), ("strength", .int 0)]),
       ("lora_2", .object [("lora", .str "None"), ("on", .bool false), ("strength", .int 0)]),
       ("lora_3", .object [("lora", .str "None"), ("on", .bool false), ("strength", .int 0)]),
       ("lora_4", .object [("lora", .str "None"), ("on", .bool false), ("strength", .int 0)]),
       ("lora_5", .object [("lora", .str "None"), ("on", .bool false), ("strength", .int 0)]),
       ("model", .link ⟨"1", 0⟩),
       ("➕ Add Lora", .str "")]),
    ("36", .of "TenosResizeToTargetPixels" "Tenos Resize to ~1M Pixels"
      [("image", .link ⟨"33", 0⟩),
       ("interpolation", .str "bicubic")]),
    ("5", .of "FluxGuidance" "FluxGuidance"
      [("conditioning", .link ⟨"8", 0⟩),
       ("guidance", .float 3.5)]),
    ("7", .of "KSampler" "KSampler"
      [("cfg", .int 1),
       ("denoise", .float 0.7),
       ("latent_image", .link ⟨"22", 0⟩),
       ("model", .link ⟨"35", 0⟩),
       ("negative", .link ⟨"5", 0⟩),
       ("positive", .link ⟨"5", 0⟩),
       ("sampler_name", .str "euler"),
       ("scheduler", .str "sgm_uniform"),
       ("seed", .int 775752669305671),
       ("steps", .int 32)]),
    ("8", .of "CLIPTextEncode" "CLIP Text Encode (Prompt)"
      [("clip", .link ⟨"35", 1⟩),
       ("text", .str " ")]) ]

/-- A tiled upscale of an image. -/
def upscale : Layout :=
  [ ("1", .of "CLIPTextEncode" "PROMPT"
      [("clip", .link ⟨"116", 1⟩),
       ("text", .str "PROMPT HERE")]),
    ("103", .of "UpscaleModelLoader" "Load Upscale Model"
      [("model_name", .str "4x-UltraSharp.pth")]),
    ("104", .of "UltimateSDUpscale" "Ultimate SD Upscale"
      [("cfg", .int 1),
       ("denoise", .float 0.2),
       ("force_uniform_tiles", .bool false),
       ("image", .link ⟨"115", 0⟩),
       ("mask_blur", .int 16),
       ("mode_type", .str "Linear"),
       ("model", .link ⟨"116", 0⟩),
       ("negative", .link ⟨"1", 0⟩),
       ("positive", .link ⟨"1", 0⟩),
       ("sampler_name", .str "euler"),
       ("scheduler", .str "sgm_uniform"),
       ("seam_fix_denoise", .float 0.15),
       ("seam_fix_mask_blur", .int 8),
       ("seam_fix_mode", .str "None"),
       ("seam_fix_padding", .int 16),
       ("seam_fix_width", .int 64),
       ("seed", .int 763716328118238),
       ("steps", .int 16),
       ("tile_height", .link ⟨"98", 2⟩),
       ("tile_padding", .int 32),
       ("tile_width", .link ⟨"98", 1⟩),
       ("tiled_decode", .bool false),
       ("upscale_by", .link ⟨"98", 3⟩),
       ("upscale_model", .link ⟨"103", 0⟩),
       ("vae", .link ⟨"8:2", 0⟩)]),
    ("115", .of "LoadImageFromUrlOrPath" "LoadImageFromUrlOrPath"
      [("url_or_path", .str "IMAGE URL HERE")]),
    ("116", .of "Power Lora Loader (rgthree)" "Power Lora Loader (rgthree)"
      [("PowerLoraLoaderHeaderWidget", .object [("type", .str "PowerLoraLoaderHeaderWidget")]),
       ("clip", .link ⟨"8:1", 0⟩),
       ("lora_1", .object [("lora", .str "None"), ("on", .bool false), ("strength", .int 0)]),
       ("lora_2", .object [("lora", .str "None"), ("on", .bool false), ("strength", .int 0)]),
       ("lora_3", .object [("lora", .str "None"), ("on", .bool false), ("strength", .int 0)]),
       ("lora_4", .object [("lora", .str "None"), ("on", .bool false), ("strength", .int 0)]),
       ("lora_5", .object [("lora", .str "None"), ("on", .bool false), ("strength", .int 0)]),
       ("model", .link ⟨"8:0", 0⟩),
       ("➕ Add Lora", .str "")]),
    ("58", .of "SaveImage" "Save Upscaled Image"
      [("filename_prefix", .str "fluxbot/UPSCALES/GEN_UP"),
       ("images", .link ⟨"104", 0⟩)]),
    ("8:0", .of "UnetLoaderGGUF" "Unet Loader (GGUF)"
      [("unet_name", .str "flux1-dev-Q8_0.gguf")]),
    ("8:1", .of "DualCLIPLoader" "DualCLIPLoader"
      [("clip_name1", .str "t5xxl_fp16.safetensors"),
       ("clip_name2", .str "Long-ViT-L-14-GmP-SAE-full-model.safetensors"),
       ("type", .str "flux")]),
    ("8:2", .of "VAELoader" "Load VAE"
      [("vae_name", .str "ae.safetensors")]),
    ("98", .of "BobsLatentNodeAdvanced" "Bobs Upscale Param Calculator"
      [("aspect_ratio", .str "1:1"),
       ("batch_size", .int 1),
       ("model_type", .str "FLUX"),
       ("mp_size_float", .str "1"),
       ("upscale_by", .float 1.85)]) ]

/-- An edit of one reference image, to which more are added. -/
def kontext : Layout :=
  [ ("clip_loader", .of "DualCLIPLoader" "DualCLIPLoader"
      [("clip_name1", .str "t5xxl_fp8_e4m3fn.safetensors"),
       ("clip_name2", .str "Long-ViT-L-14-GmP-SAE-full-model.safetensors"),
       ("type", .str "flux")]),
    ("flux_guidance", .of "FluxGuidance" "FluxGuidance"
      [("conditioning", .link ⟨"reference_latent_node", 0⟩),
       ("guidance", .float 3.0)]),
    ("image_resizer", .of "TenosResizeToTargetPixels" "Resize to Target Pixels"
      [("image", .link ⟨"load_image_1", 0⟩),
       ("interpolation", .str "bilinear")]),
    ("instruction_encoder", .of "CLIPTextEncode" "Encode Edit Command"
      [("clip", .link ⟨"clip_loader", 0⟩),
       ("text", .str "EDIT COMMAND HERE")]),
    ("kontext_model_loader", .of "UNETLoader" "Load Kontext Model"
      [("unet_name", .str "flux1-kontext-dev.safetensors"),
       ("weight_dtype", .str "default")]),
    ("ksampler", .of "KSampler" "KSampler"
      [("cfg", .float 1.0),
       ("denoise", .float 1.0),
       ("latent_image", .link ⟨"latent_optimizer", 0⟩),
       ("model", .link ⟨"kontext_model_loader", 0⟩),
       ("negative", .link ⟨"flux_guidance", 0⟩),
       ("positive", .link ⟨"flux_guidance", 0⟩),
       ("sampler_name", .str "euler"),
       ("scheduler", .str "sgm_uniform"),
       ("seed", .int 0),
       ("steps", .int 32)]),
    ("latent_optimizer", .of "BobsLatentNodeAdvanced" "Bobs Latent Optimizer (Kontext)"
      [("aspect_ratio", .str "1:1"),
       ("batch_size", .int 1),
       ("model_type", .str "FLUX"),
       ("mp_size_float", .float 1.15),
       ("upscale_by", .int 1)]),
    ("load_image_1", .of "LoadImageFromUrlOrPath" "Load Source Image 1"
      [("url_or_path", .str "")]),
    ("reference_latent_node", .of "ReferenceLatent" "ReferenceLatent"
      [("conditioning", .link ⟨"instruction_encoder", 0⟩),
       ("latent", .link ⟨"vae_encoder", 0⟩)]),
    ("save_image", .of "SaveImage" "Save Edited Image"
      [("filename_prefix", .str "fluxbot/EDIT"),
       ("images", .link ⟨"vae_decoder", 0⟩)]),
    ("vae_decoder", .of "VAEDecode" "VAE Decode"
      [("samples", .link ⟨"ksampler", 0⟩),
       ("vae", .link ⟨"vae_loader", 0⟩)]),
    ("vae_encoder", .of "VAEEncode" "VAE Encode Source Image"
      [("pixels", .link ⟨"image_resizer", 0⟩),
       ("vae", .link ⟨"vae_loader", 0⟩)]),
    ("vae_loader", .of "VAELoader" "Load VAE"
      [("vae_name", .str "ae.safetensors")]) ]

end Renderflow.Template.Flux
